import Mahjong.Proofs.Json.Record

/-!
This module contains the spellings of a record. The members of an object may stand in another order
and beside members of other names, and the fields may be the elements of an array: nothing that is
read from the fields can tell these apart.
-/

namespace Mahjong.Json

variable {α β : Type}

theorem lookup_eq_of_perm {entries others : List (String × α)} (h : entries.Perm others)
    (hnodup : (entries.map (·.1)).Nodup) (key : String)
    : entries.lookup key = others.lookup key := by
  induction h with
  | nil => rfl
  | cons entry h ih =>
    rcases entry with ⟨k, v⟩
    by_cases hkey : key = k
    . simp [hkey]
    . simp only [SortedMap.lookup_cons_of_ne hkey, ih (List.nodup_cons.1 hnodup).2]
  | swap entry other rest =>
    rcases entry with ⟨k, v⟩
    rcases other with ⟨k', v'⟩
    have hne : k' ≠ k := by
      intro heq
      simp [heq] at hnodup
    by_cases hkey : key = k
    . simp [hkey, SortedMap.lookup_cons_of_ne hne.symm]
    . by_cases hkey' : key = k'
      . simp [hkey', SortedMap.lookup_cons_of_ne hne]
      . simp only [SortedMap.lookup_cons_of_ne hkey, SortedMap.lookup_cons_of_ne hkey']
  | trans h _ ih ih' => exact (ih hnodup).trans (ih' ((h.map _).nodup_iff.1 hnodup))

theorem map_zip_sublist (names : List String) (elements : List α)
    : ((names.zip elements).map (·.1)).Sublist names := by
  induction names generalizing elements with
  | nil => simp
  | cons name rest ih =>
    cases elements with
    | nil => simp
    | cons element elements => exact (ih elements).cons_cons name

theorem pick?_cons_of_not_mem {names : List String} {name : String} (h : name ∉ names) (x : α)
    (members : List (String × α))
    : pick? names ((name, x) :: members) = pick? names members := by
  unfold pick?
  simp [h]

/--
Reading by name cannot tell apart what was picked from members in different orders.
-/
theorem bind_pick?_eq_of_perm {names : List String} {members others : List (String × α)}
    (h : members.Perm others) {read : List (String × α) → Option β}
    (hread : ∀ fields fields', (∀ name, fields.lookup name = fields'.lookup name) →
      read fields = read fields')
    : (pick? names members).bind read = (pick? names others).bind read := by
  have hknown := h.filter (names.contains ·.1)
  have hnodup := (hknown.map (·.1)).nodup_iff
  unfold pick?
  dsimp only
  by_cases hkeys : ((members.filter (names.contains ·.1)).map (·.1)).Nodup
  . rw [if_pos hkeys, if_pos (hnodup.1 hkeys)]
    apply hread
    exact lookup_eq_of_perm hknown hkeys
  . rw [if_neg hkeys, if_neg (hkeys ∘ hnodup.2)]

namespace Tree

/--
Whether two trees spell a record with fields of the given names alike but for one difference.
-/
inductive Respells (names : List String) : Tree → Tree → Prop where
  /-- Members in another order. -/
  | order {members others} (h : List.Perm members others)
      : Respells names (ofMembers members) (ofMembers others)
  /-- A member that names no field. -/
  | unknown {name tree members} (h : name ∉ names)
      : Respells names (ofMembers ((name, tree) :: members)) (ofMembers members)
  /-- An array, which has no fields but the first ones. -/
  | array {elements} (h : elements.length ≤ names.length)
      : Respells names (.array elements) (ofMembers (names.zip elements))

theorem Respells.bind_fields? {names : List String} {s t : Tree} (h : Respells names s t)
    (hnodup : names.Nodup) {read : List (String × Tree) → Option β}
    (hread : ∀ fields fields', (∀ name, fields.lookup name = fields'.lookup name) →
      read fields = read fields')
    : (s.fields? names).bind read = (t.fields? names).bind read := by
  cases h with
  | order h =>
    rw [fields?_ofMembers, fields?_ofMembers]
    exact bind_pick?_eq_of_perm h hread
  | unknown h => rw [fields?_ofMembers, fields?_ofMembers, pick?_cons_of_not_mem h]
  | @array elements h =>
    have harray : (Tree.array elements).fields? names = some (names.zip elements) := by
      exact if_pos h
    rw [harray, fields?_ofMembers, pick?_of_sublist hnodup (map_zip_sublist names elements)]

end Tree

end Mahjong.Json
