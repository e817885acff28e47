/-!
This module contains finite maps from texts, held as a list of entries with ascending keys. As the
order is part of the type, two maps with the same entries are equal, and whatever is written from a
map comes out sorted. Texts are compared by code points, which is also the order of their UTF-8
bytes.
-/

namespace Mahjong

/--
A map from texts.
-/
structure SortedMap (α : Type) where
  entries : List (String × α)
  ascending : entries.Pairwise (fun a b => a.1 < b.1)

namespace SortedMap

variable {α β : Type}

@[ext]
theorem ext {m n : SortedMap α} (h : m.entries = n.entries) : m = n := by
  cases m
  cases n
  cases h
  rfl

def empty : SortedMap α where
  entries := []
  ascending := .nil

def get? (m : SortedMap α) (key : String) : Option α :=
  m.entries.lookup key

def contains (m : SortedMap α) (key : String) : Bool :=
  (m.get? key).isSome

def keys (m : SortedMap α) : List String :=
  m.entries.map (·.1)

def values (m : SortedMap α) : List α :=
  m.entries.map (·.2)

/--
Put an entry at its place among ascending ones. An entry with the same key is replaced.
-/
def insertEntry (key : String) (value : α) : List (String × α) → List (String × α)
  | [] => [(key, value)]
  | (k, v) :: rest =>
    if key < k then (key, value) :: (k, v) :: rest
    else if key = k then (key, value) :: rest
    else (k, v) :: insertEntry key value rest

theorem mem_insertEntry {key : String} {value : α} {entries : List (String × α)}
    {entry : String × α} (h : entry ∈ insertEntry key value entries)
    : entry = (key, value) ∨ entry ∈ entries := by
  induction entries with
  | nil => exact .inl (List.mem_singleton.1 h)
  | cons first rest ih =>
    unfold insertEntry at h
    split at h
    . exact List.mem_cons.1 h
    . split at h
      . rcases List.mem_cons.1 h with h | h
        . exact .inl h
        . exact .inr (List.mem_cons_of_mem _ h)
      . rcases List.mem_cons.1 h with h | h
        . rw [h]
          exact .inr List.mem_cons_self
        . exact (ih h).imp_right (List.mem_cons_of_mem _)

theorem pairwise_insertEntry (key : String) (value : α) {entries : List (String × α)}
    (h : entries.Pairwise (fun a b => a.1 < b.1))
    : (insertEntry key value entries).Pairwise (fun a b => a.1 < b.1) := by
  induction entries with
  | nil => exact List.pairwise_singleton _ _
  | cons first rest ih =>
    rcases List.pairwise_cons.1 h with ⟨hfirst, hrest⟩
    unfold insertEntry
    split
    . next hlt =>
      apply List.pairwise_cons.2
      constructor
      . intro entry hmem
        rcases List.mem_cons.1 hmem with hmem | hmem
        . rw [hmem]
          exact hlt
        . exact String.lt_trans hlt (hfirst entry hmem)
      . assumption
    . next hge =>
      split
      . next heq =>
        rw [heq]
        exact List.pairwise_cons.2 ⟨hfirst, hrest⟩
      . next hne =>
        have hlt : first.1 < key := by
          apply Decidable.byContradiction
          intro hle
          apply hne
          exact String.le_antisymm hle hge
        apply List.pairwise_cons.2
        constructor
        . intro entry hmem
          rcases mem_insertEntry hmem with hmem | hmem
          . rw [hmem]
            exact hlt
          . exact hfirst entry hmem
        . exact ih hrest

/--
Set the value of a key.
-/
def insert (m : SortedMap α) (key : String) (value : α) : SortedMap α where
  entries := insertEntry key value m.entries
  ascending := pairwise_insertEntry key value m.ascending

/--
Set several keys, one after the other.
-/
def insertAll (m : SortedMap α) (entries : List (String × α)) : SortedMap α :=
  entries.foldl (fun m entry => m.insert entry.1 entry.2) m

/--
The map in which each key has the last of its values in a list.
-/
def ofList (entries : List (String × α)) : SortedMap α :=
  empty.insertAll entries

/--
Apply a function to every value.
-/
def map (f : α → β) (m : SortedMap α) : SortedMap β where
  entries := m.entries.map fun entry => (entry.1, f entry.2)
  ascending := by
    apply m.ascending.map
    intro _ _ h
    exact h

end SortedMap

end Mahjong
