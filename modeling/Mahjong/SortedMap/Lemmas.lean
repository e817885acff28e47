import Mahjong.SortedMap

/-!
This module contains the view of a map as the function `get?`: what each operation does to it, and
that a map is determined by it.
-/

namespace Mahjong.SortedMap

variable {α β : Type}

theorem lookup_cons_of_ne {key k : String} {value : α} {rest : List (String × α)} (h : k ≠ key)
    : ((key, value) :: rest).lookup k = rest.lookup k := by
  simp only [List.lookup_cons, beq_false_of_ne h]

theorem lookup_insertEntry (key : String) (value : α) (entries : List (String × α)) (k : String)
    : (insertEntry key value entries).lookup k
        =
      if k = key then some value else entries.lookup k := by
  induction entries with
  | nil =>
    by_cases h : k = key
    . simp [insertEntry, h]
    . rw [insertEntry, lookup_cons_of_ne h, if_neg h]
  | cons first rest ih =>
    rcases first with ⟨k', v'⟩
    unfold insertEntry
    split
    . by_cases h : k = key
      . simp [h]
      . simp [lookup_cons_of_ne h, h]
    . split
      . next heq =>
        subst heq
        by_cases h : k = key
        . simp [h]
        . simp [lookup_cons_of_ne h, h]
      . next hne =>
        by_cases h : k = k'
        . subst h
          simp [Ne.symm hne]
        . simp [lookup_cons_of_ne h, ih]

theorem lookup_eq_none_of_lt {entries : List (String × α)} {key : String}
    (h : ∀ entry ∈ entries, key < entry.1)
    : entries.lookup key = none := by
  rw [List.lookup_eq_none_iff]
  intro entry hmem
  simpa using String.ne_of_lt (h entry hmem)

theorem key_le_of_lookup {first : String × α} {rest : List (String × α)} {key : String} {value : α}
    (hrest : ∀ entry ∈ rest, first.1 < entry.1) (h : (first :: rest).lookup key = some value)
    : first.1 ≤ key := by
  apply Decidable.byContradiction
  intro hle
  have hlt : key < first.1 := by
    exact String.not_le.1 hle
  have hnone : (first :: rest).lookup key = none := by
    apply lookup_eq_none_of_lt
    intro entry hmem
    rcases List.mem_cons.1 hmem with hmem | hmem
    . rw [hmem]
      exact hlt
    . exact String.lt_trans hlt (hrest entry hmem)
  rw [hnone] at h
  contradiction

theorem eq_of_lookup_eq {entries others : List (String × α)}
    (h : entries.Pairwise (fun a b => a.1 < b.1)) (h' : others.Pairwise (fun a b => a.1 < b.1))
    (heq : ∀ key, entries.lookup key = others.lookup key)
    : entries = others := by
  induction entries generalizing others with
  | nil =>
    cases others with
    | nil => rfl
    | cons first rest =>
      rcases first with ⟨k, v⟩
      simpa using heq k
  | cons first rest ih =>
    cases others with
    | nil =>
      rcases first with ⟨k, v⟩
      simpa using heq k
    | cons first' rest' =>
      rcases first with ⟨k, v⟩
      rcases first' with ⟨k', v'⟩
      rcases List.pairwise_cons.1 h with ⟨hfirst, hrest⟩
      rcases List.pairwise_cons.1 h' with ⟨hfirst', hrest'⟩
      -- Either list has the other's first key, which is the least one in both.
      have hkey : k = k' := by
        apply String.le_antisymm
        . exact key_le_of_lookup hfirst ((heq k').trans List.lookup_cons_self)
        . exact key_le_of_lookup hfirst' ((heq k).symm.trans List.lookup_cons_self)
      subst hkey
      have hvalue := heq k
      simp only [List.lookup_cons_self, Option.some.injEq] at hvalue
      have hothers : rest = rest' := by
        apply ih hrest hrest'
        intro key
        by_cases hk : key = k
        . rw [hk, lookup_eq_none_of_lt hfirst, lookup_eq_none_of_lt hfirst']
        . simpa only [lookup_cons_of_ne hk] using heq key
      rw [hvalue, hothers]

/--
Maps with the same values are the same.
-/
theorem ext_get? {m n : SortedMap α} (h : ∀ key, m.get? key = n.get? key) : m = n := by
  apply ext
  exact eq_of_lookup_eq m.ascending n.ascending h

@[simp]
theorem get?_empty (key : String) : (empty : SortedMap α).get? key = none := by
  rfl

theorem get?_insert (m : SortedMap α) (key : String) (value : α) (k : String)
    : (m.insert key value).get? k = if k = key then some value else m.get? k := by
  apply lookup_insertEntry

@[simp]
theorem get?_insert_self (m : SortedMap α) (key : String) (value : α)
    : (m.insert key value).get? key = some value := by
  simp [get?_insert]

theorem lookup_map (f : α → β) (entries : List (String × α)) (key : String)
    : (entries.map fun entry => (entry.1, f entry.2)).lookup key = (entries.lookup key).map f := by
  induction entries with
  | nil => rfl
  | cons first rest ih =>
    rcases first with ⟨k, v⟩
    by_cases h : key = k
    . simp [h]
    . simp only [List.map_cons, lookup_cons_of_ne h, ih]

@[simp]
theorem get?_map (f : α → β) (m : SortedMap α) (key : String)
    : (m.map f).get? key = (m.get? key).map f := by
  apply lookup_map

/--
Of entries with the same key the last one counts.
-/
theorem get?_insertAll (m : SortedMap α) (entries : List (String × α)) (key : String)
    : (m.insertAll entries).get? key = (entries.reverse.lookup key).or (m.get? key) := by
  induction entries generalizing m with
  | nil => rfl
  | cons first rest ih =>
    rcases first with ⟨k, v⟩
    have hcons : m.insertAll ((k, v) :: rest) = (m.insert k v).insertAll rest := by
      rfl
    rw [hcons, ih, get?_insert, List.reverse_cons, List.lookup_append, Option.or_assoc]
    by_cases h : key = k
    . simp [h]
    . simp [lookup_cons_of_ne h, h]

theorem get?_ofList (entries : List (String × α)) (key : String)
    : (ofList entries).get? key = entries.reverse.lookup key := by
  rw [ofList, get?_insertAll, get?_empty, Option.or_none]

theorem get?_ofList_eq_getLast? (entries : List (String × α)) (key : String)
    : (ofList entries).get? key
        =
      (entries.filterMap fun entry =>
        if entry.1 = key then some entry.2 else none).getLast? := by
  rw [get?_ofList, List.lookup_eq_findSome?, List.getLast?_filterMap]
  simp only [beq_iff_eq, @eq_comm _ key]

theorem lookup_map_self (keys : List String) (f : String → α) (key : String)
    : (keys.map fun key => (key, f key)).lookup key
        =
      if key ∈ keys then some (f key) else none := by
  induction keys with
  | nil => rfl
  | cons first rest ih =>
    by_cases h : key = first
    . simp [h]
    . simp [lookup_cons_of_ne h, h, ih]

/--
A map that is listed by its keys.
-/
theorem get?_ofList_map (keys : List String) (f : String → α) (key : String)
    : (ofList (keys.map fun key => (key, f key))).get? key
        =
      if key ∈ keys then some (f key) else none := by
  rw [get?_ofList, ← List.map_reverse, lookup_map_self]
  simp only [List.mem_reverse]

theorem mem_insertAll {m : SortedMap α} {entries : List (String × α)} {entry : String × α}
    (h : entry ∈ (m.insertAll entries).entries)
    : entry ∈ entries ∨ entry ∈ m.entries := by
  induction entries generalizing m with
  | nil => exact .inr h
  | cons first rest ih =>
    rcases ih h with hmem | hmem
    . exact .inl (List.mem_cons_of_mem first hmem)
    . rcases mem_insertEntry hmem with heq | hmem
      . rw [heq]
        exact .inl List.mem_cons_self
      . exact .inr hmem

theorem mem_ofList {entries : List (String × α)} {entry : String × α}
    (h : entry ∈ (ofList entries).entries)
    : entry ∈ entries := by
  rcases mem_insertAll h with hmem | hmem
  . assumption
  . contradiction

theorem lookup_reverse {entries : List (String × α)}
    (h : entries.Pairwise (fun a b => a.1 < b.1)) (key : String)
    : entries.reverse.lookup key = entries.lookup key := by
  induction entries with
  | nil => rfl
  | cons first rest ih =>
    rcases first with ⟨k, v⟩
    rcases List.pairwise_cons.1 h with ⟨hfirst, hrest⟩
    rw [List.reverse_cons, List.lookup_append, ih hrest]
    by_cases hk : key = k
    . rw [hk, lookup_eq_none_of_lt hfirst]
      simp
    . simp [lookup_cons_of_ne hk]

theorem ofList_entries (m : SortedMap α) : ofList m.entries = m := by
  apply ext_get?
  intro key
  rw [get?_ofList]
  exact lookup_reverse m.ascending key

theorem mem_entries_iff (m : SortedMap α) (key : String) (value : α)
    : (key, value) ∈ m.entries ↔ m.get? key = some value := by
  unfold get?
  rw [List.lookup_eq_some_iff]
  constructor
  . intro hmem
    rcases List.append_of_mem hmem with ⟨before, after, heq⟩
    refine ⟨before, after, heq, ?_⟩
    intro entry hentry
    have hlt : entry.1 < key := by
      have hascending := m.ascending
      rw [heq] at hascending
      exact (List.pairwise_append.1 hascending).2.2 entry hentry (key, value) List.mem_cons_self
    simpa using (String.ne_of_lt hlt).symm
  . rintro ⟨before, after, heq, _⟩
    simp [heq]

end Mahjong.SortedMap
