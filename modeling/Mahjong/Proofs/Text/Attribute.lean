import Mahjong.Text.Attribute

/-!
This module contains the reading of attribute values, which takes the escapes back. It undoes the
escaping of every text, and the texts that escaping yields are those in which every `&` begins an
entity and nothing is left to escape.
-/

namespace Mahjong.Text

/--
Replace the entities by the characters they stand for, in one pass from left to right. Any other
`&` stands for itself.
-/
def decodeEntities : List Char → List Char
  | '&' :: 'a' :: 'm' :: 'p' :: ';' :: rest => '&' :: decodeEntities rest
  | '&' :: 'q' :: 'u' :: 'o' :: 't' :: ';' :: rest => '"' :: decodeEntities rest
  | '&' :: 'l' :: 't' :: ';' :: rest => '<' :: decodeEntities rest
  | '&' :: 'g' :: 't' :: ';' :: rest => '>' :: decodeEntities rest
  | c :: rest => c :: decodeEntities rest
  | [] => []

theorem decodeEntities_cons_of_ne {c : Char} (h : c ≠ '&') (rest : List Char)
    : decodeEntities (c :: rest) = c :: decodeEntities rest := by
  rw [decodeEntities]
  all_goals simp [h]

theorem escapeAttributeChar_of_ne {c : Char} (hamp : c ≠ '&') (hquot : c ≠ '"') (hlt : c ≠ '<')
    (hgt : c ≠ '>')
    : escapeAttributeChar c = [c] := by
  unfold escapeAttributeChar
  split <;> simp_all

theorem decodeEntities_escapeAttributeChar (c : Char) (rest : List Char)
    : decodeEntities (escapeAttributeChar c ++ rest) = c :: decodeEntities rest := by
  unfold escapeAttributeChar
  split
  . simp [decodeEntities]
  . simp [decodeEntities]
  . simp [decodeEntities]
  . simp [decodeEntities]
  . next hamp _ _ _ => exact decodeEntities_cons_of_ne hamp rest

theorem decodeEntities_escape (text : List Char)
    : decodeEntities (text.flatMap escapeAttributeChar) = text := by
  induction text with
  | nil => rfl
  | cons c rest ih => rw [List.flatMap_cons, decodeEntities_escapeAttributeChar, ih]

theorem not_special_of_mem_escape {text : List Char} {c : Char}
    (h : c ∈ text.flatMap escapeAttributeChar)
    : c ≠ '"' ∧ c ≠ '<' ∧ c ≠ '>' := by
  rcases List.mem_flatMap.1 h with ⟨d, _, hd⟩
  clear h
  revert c
  unfold escapeAttributeChar
  split
  . simp
  . simp
  . simp
  . simp
  . simp_all

theorem escapeAttribute_of_ne {text : String}
    (h : ∀ c ∈ text.toList, c ≠ '&' ∧ c ≠ '"' ∧ c ≠ '<' ∧ c ≠ '>')
    : escapeAttribute text = text := by
  have hchars : ∀ chars : List Char,
      (∀ c ∈ chars, c ≠ '&' ∧ c ≠ '"' ∧ c ≠ '<' ∧ c ≠ '>') →
      chars.flatMap escapeAttributeChar = chars := by
    intro chars hne
    induction chars with
    | nil => rfl
    | cons c chars ih =>
      rcases List.forall_mem_cons.1 hne with ⟨⟨hamp, hquot, hlt, hgt⟩, hrest⟩
      rw [List.flatMap_cons, escapeAttributeChar_of_ne hamp hquot hlt hgt, ih hrest]
      rfl
  unfold escapeAttribute
  rw [hchars text.toList h, String.ofList_toList]

def unescapeAttribute (text : String) : String :=
  String.ofList (decodeEntities text.toList)

def entities : List String :=
  ["&amp;", "&quot;", "&lt;", "&gt;"]

/--
Texts in which no character can end an attribute or a tag and every `&` begins an entity.
-/
structure IsEscaped (text : List Char) : Prop where
  not_special : ∀ c ∈ text, c ≠ '"' ∧ c ≠ '<' ∧ c ≠ '>'
  begins_entity : ∀ before rest, text = before ++ '&' :: rest →
    ∃ entity ∈ entities, entity.toList <+: '&' :: rest

theorem IsEscaped.of_append (before : List Char) {text : List Char}
    (h : IsEscaped (before ++ text))
    : IsEscaped text := by
  constructor
  . intro c hc
    apply h.not_special
    apply List.mem_append_right
    assumption
  . intro before' rest htext
    apply h.begins_entity (before ++ before')
    rw [htext, List.append_assoc]

theorem ampersand_not_mem_tail (c : Char) : '&' ∉ (escapeAttributeChar c).tail := by
  unfold escapeAttributeChar
  split <;> simp

theorem exists_entity_of_eq_cons {c : Char} {rest : List Char}
    (h : escapeAttributeChar c = '&' :: rest)
    : ∃ entity ∈ entities, entity.toList = '&' :: rest := by
  rw [← h]
  unfold escapeAttributeChar at h ⊢
  split at h
  . exact ⟨"&amp;", by decide, rfl⟩
  . exact ⟨"&quot;", by decide, rfl⟩
  . exact ⟨"&lt;", by decide, rfl⟩
  . exact ⟨"&gt;", by decide, rfl⟩
  . simp_all

theorem isEscaped_escape (text : List Char) : IsEscaped (text.flatMap escapeAttributeChar) := by
  constructor
  . intro c hc
    exact not_special_of_mem_escape hc
  . induction text with
    | nil => simp
    | cons c text ih =>
      intro before rest h
      rw [List.flatMap_cons] at h
      -- The `&` stands behind the escape of the first character or is a part of it.
      rcases List.append_eq_append_iff.1 h with ⟨before', _, htail⟩ | ⟨inside, hchar, hrest⟩
      . exact ih before' rest htail
      . cases inside with
        | nil => exact ih [] rest hrest.symm
        | cons d inside =>
          rw [List.cons_append, List.cons.injEq] at hrest
          rcases hrest with ⟨hamp, hrest⟩
          rw [← hamp] at hchar
          cases before with
          | nil =>
            rcases exists_entity_of_eq_cons hchar with ⟨entity, hmem, hentity⟩
            refine ⟨entity, hmem, ?_⟩
            rw [hentity, hrest]
            exact ⟨text.flatMap escapeAttributeChar, rfl⟩
          | cons e before =>
            have htail := ampersand_not_mem_tail c
            rw [hchar] at htail
            simp at htail

theorem escape_decodeEntities {text : List Char} (h : IsEscaped text)
    : (decodeEntities text).flatMap escapeAttributeChar = text := by
  fun_induction decodeEntities text with
  | case1 rest ih =>
    rw [List.flatMap_cons, ih (IsEscaped.of_append ['&', 'a', 'm', 'p', ';'] h)]
    rfl
  | case2 rest ih =>
    rw [List.flatMap_cons, ih (IsEscaped.of_append ['&', 'q', 'u', 'o', 't', ';'] h)]
    rfl
  | case3 rest ih =>
    rw [List.flatMap_cons, ih (IsEscaped.of_append ['&', 'l', 't', ';'] h)]
    rfl
  | case4 rest ih =>
    rw [List.flatMap_cons, ih (IsEscaped.of_append ['&', 'g', 't', ';'] h)]
    rfl
  | case5 c rest hamp hquot hlt hgt ih =>
    -- No entity can be read here, so that the character is not an `&`.
    have hc : c ≠ '&' := by
      intro hc
      subst hc
      rcases h.begins_entity [] rest rfl with ⟨entity, hmem, after, heq⟩
      simp only [entities, List.mem_cons, List.not_mem_nil, or_false] at hmem
      rcases hmem with hmem | hmem | hmem | hmem
      all_goals
        subst hmem
        injection heq with _ heq
      . exact hamp after rfl heq.symm
      . exact hquot after rfl heq.symm
      . exact hlt after rfl heq.symm
      . exact hgt after rfl heq.symm
    rcases h.not_special c List.mem_cons_self with ⟨hquot, hlt, hgt⟩
    rw [List.flatMap_cons, escapeAttributeChar_of_ne hc hquot hlt hgt,
      ih (IsEscaped.of_append [c] h)]
    rfl
  | case6 => rfl

theorem unescapeAttribute_escapeAttribute (text : String)
    : unescapeAttribute (escapeAttribute text) = text := by
  unfold unescapeAttribute escapeAttribute
  rw [String.toList_ofList, decodeEntities_escape, String.ofList_toList]

/--
Escaped texts are those in which every `&` begins an entity and nothing is left to escape. One pass
over the entities gives the text back that was escaped, so that different texts stay different, also
where they look escaped already.
-/
theorem escapeAttribute_reversible (text : String)
    : IsEscaped (escapeAttribute text).toList ∧
      unescapeAttribute (escapeAttribute text) = text ∧
      (IsEscaped text.toList ↔ escapeAttribute (unescapeAttribute text) = text) ∧
      ∀ other : String,
        (escapeAttribute text = escapeAttribute other ↔ text = other) ∧
        escapeAttribute (text ++ other) = escapeAttribute text ++ escapeAttribute other := by
  have hescaped : ∀ text, IsEscaped (escapeAttribute text).toList := by
    intro text
    unfold escapeAttribute
    rw [String.toList_ofList]
    apply isEscaped_escape
  refine ⟨hescaped text, unescapeAttribute_escapeAttribute text, ⟨?_, ?_⟩, ?_⟩
  . intro h
    apply String.toList_inj.1
    unfold escapeAttribute unescapeAttribute
    rw [String.toList_ofList, String.toList_ofList, escape_decodeEntities h]
  . intro h
    rw [← h]
    apply hescaped
  . intro other
    refine ⟨⟨?_, ?_⟩, ?_⟩
    . intro h
      rw [← unescapeAttribute_escapeAttribute text, h, unescapeAttribute_escapeAttribute]
    . intro h
      rw [h]
    . unfold escapeAttribute
      rw [String.toList_append, List.flatMap_append, String.ofList_append]

example : escapeAttribute "&amp;lt;" = "&amp;amp;lt;" ∧ unescapeAttribute "&amp;amp;lt;" = "&amp;lt;"
    := by
  decide

end Mahjong.Text
