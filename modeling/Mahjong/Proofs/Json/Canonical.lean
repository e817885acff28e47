import Mahjong.Json.Canonical
import Mahjong.SortedMap.Lemmas
import Mahjong.Proofs.Json.Text
import Mahjong.Proofs.Text.Utf8

/-!
This module contains the proof that values have the same canonical form if and only if they are the
same up to the order of members, and that a canonical form is its own canonical form.
-/

namespace Mahjong.Json

namespace Value

theorem induction {motive : Value → Prop}
    (null : motive .null)
    (bool : ∀ b, motive (.bool b))
    (int : ∀ n, motive (.int n))
    (float : ∀ x, motive (.float x))
    (string : ∀ s, motive (.string s))
    (array : ∀ elements, (∀ v ∈ elements, motive v) → motive (.array elements))
    (object : ∀ members, (∀ member ∈ members, motive member.2) → motive (.object members))
    (v : Value)
    : motive v := by
  refine @Value.rec motive (fun elements => ∀ v ∈ elements, motive v)
    (fun members => ∀ member ∈ members, motive member.2) (fun member => motive member.2)
    null bool int float string array object ?_ ?_ ?_ ?_ ?_ v
  . intro v hv
    contradiction
  . intro v rest hv hrest
    exact List.forall_mem_cons.2 ⟨hv, hrest⟩
  . intro member hmember
    contradiction
  . intro member rest hmember hrest
    exact List.forall_mem_cons.2 ⟨hmember, hrest⟩
  . intro key v hv
    exact hv

/--
The value of a key in an object. Of members with the same key the last one counts.
-/
def lastMember? (members : List (String × Value)) (key : String) : Option Value :=
  members.reverse.lookup key

/--
Values that are the same up to the order of object members.
-/
inductive Same : Value → Value → Prop where
  | null : Same .null .null
  | bool (b : Bool) : Same (.bool b) (.bool b)
  | int (n : Int) : Same (.int n) (.int n)
  | float (x : Float) : Same (.float x) (.float x)
  | string (s : String) : Same (.string s) (.string s)
  | array {elements others : List Value} (hlength : elements.length = others.length)
    (h : ∀ idx (hidx1 : idx < elements.length) (hidx2 : idx < others.length),
      Same elements[idx] others[idx])
    : Same (.array elements) (.array others)
  | object {members others : List (String × Value)}
    (hkeys : ∀ key, (lastMember? members key).isSome = (lastMember? others key).isSome)
    (h : ∀ key v w, lastMember? members key = some v → lastMember? others key = some w → Same v w)
    : Same (.object members) (.object others)

theorem canonicalElements_eq_map (elements : List Value)
    : canonicalElements elements = elements.map canonical := by
  induction elements with
  | nil => rfl
  | cons v rest ih =>
    unfold canonicalElements
    rw [ih, List.map_cons]

theorem canonicalMembers_eq_map (members : List (String × Value))
    : canonicalMembers members = members.map fun member => (member.1, member.2.canonical) := by
  induction members with
  | nil => rfl
  | cons member rest ih =>
    unfold canonicalMembers
    rw [ih, List.map_cons]

theorem canonical_array (elements : List Value)
    : canonical (.array elements) = .array (elements.map canonical) := by
  rw [canonical, canonicalElements_eq_map]

theorem canonical_object (members : List (String × Value))
    : canonical (.object members)
        =
      .object
        (SortedMap.ofList (members.map fun member => (member.1, member.2.canonical))).entries := by
  rw [canonical, canonicalMembers_eq_map]

theorem get?_canonicalMembers (members : List (String × Value)) (key : String)
    : (SortedMap.ofList (members.map fun member => (member.1, member.2.canonical))).get? key
        =
      (lastMember? members key).map canonical := by
  rw [SortedMap.get?_ofList, ← List.map_reverse]
  exact SortedMap.lookup_map canonical members.reverse key

theorem canonical_object_eq_iff (members others : List (String × Value))
    : canonical (.object members) = canonical (.object others)
        ↔
      ∀ key, (lastMember? members key).map canonical = (lastMember? others key).map canonical := by
  rw [canonical_object, canonical_object]
  constructor
  . intro h key
    rw [← get?_canonicalMembers, ← get?_canonicalMembers, SortedMap.ext (object.inj h)]
  . intro h
    congr 2
    apply SortedMap.ext_get?
    intro key
    rw [get?_canonicalMembers, get?_canonicalMembers, h key]

theorem mem_of_lastMember? {members : List (String × Value)} {key : String} {v : Value}
    (h : lastMember? members key = some v)
    : (key, v) ∈ members := by
  rcases List.lookup_eq_some_iff.1 h with ⟨before, after, hmembers, _⟩
  have hmem : (key, v) ∈ members.reverse := by
    rw [hmembers]
    simp
  exact List.mem_reverse.1 hmem

theorem canonical_eq_of_same {v w : Value} (h : Same v w) : v.canonical = w.canonical := by
  induction h with
  | null => rfl
  | bool => rfl
  | int => rfl
  | float => rfl
  | string => rfl
  | array hlength _ ih =>
    rw [canonical_array, canonical_array]
    congr 1
    apply List.ext_getElem
    . simpa using hlength
    . intro idx hidx _
      rw [List.getElem_map, List.getElem_map]
      apply ih
  | @object members others hkeys _ ih =>
    rw [canonical_object_eq_iff]
    intro key
    have hkey := hkeys key
    cases hv : lastMember? members key with
    | none =>
      cases hw : lastMember? others key with
      | none => rfl
      | some w => simp [hv, hw] at hkey
    | some v =>
      cases hw : lastMember? others key with
      | none => simp [hv, hw] at hkey
      | some w => simp [ih key v w hv hw]

theorem same_of_canonical_eq {v w : Value} (h : v.canonical = w.canonical) : Same v w := by
  induction v using induction generalizing w with
  | null =>
    cases w with
    | null => exact .null
    | _ => simp [canonical] at h
  | bool b =>
    cases w with
    | bool b' =>
      simp only [canonical, bool.injEq] at h
      exact h ▸ .bool b
    | _ => simp [canonical] at h
  | int n =>
    cases w with
    | int n' =>
      simp only [canonical, int.injEq] at h
      exact h ▸ .int n
    | _ => simp [canonical] at h
  | float x =>
    cases w with
    | float x' =>
      simp only [canonical, float.injEq] at h
      exact h ▸ .float x
    | _ => simp [canonical] at h
  | string s =>
    cases w with
    | string s' =>
      simp only [canonical, string.injEq] at h
      exact h ▸ .string s
    | _ => simp [canonical] at h
  | array elements ih =>
    cases w with
    | array others =>
      rw [canonical_array, canonical_array, array.injEq] at h
      have hlength : elements.length = others.length := by
        simpa using congrArg List.length h
      refine .array hlength ?_
      intro idx hidx _
      apply ih
      . exact List.getElem_mem hidx
      . have := List.getElem_of_eq h (by simpa using hidx)
        simpa using this
    | _ => simp [canonical] at h
  | object members ih =>
    cases w with
    | object others =>
      rw [canonical_object_eq_iff] at h
      refine .object ?_ ?_
      . intro key
        simpa using congrArg Option.isSome (h key)
      . intro key v w hv hw
        have hkey := h key
        rw [hv, hw, Option.map_some, Option.map_some, Option.some.injEq] at hkey
        exact ih (key, v) (mem_of_lastMember? hv) hkey
    | _ => simp [canonical] at h

/--
Canonical forms tell values apart up to the order of members, and no further.
-/
theorem canonical_eq_iff (v w : Value) : v.canonical = w.canonical ↔ Same v w := by
  constructor
  . exact same_of_canonical_eq
  . exact canonical_eq_of_same

theorem mem_canonicalMembers {members : List (String × Value)} {entry : String × Value}
    (h : entry ∈ (SortedMap.ofList
      (members.map fun member => (member.1, member.2.canonical))).entries)
    : ∃ member ∈ members, member.2.canonical = entry.2 := by
  rcases List.mem_map.1 (SortedMap.mem_ofList h) with ⟨member, hmember, heq⟩
  exact ⟨member, hmember, congrArg Prod.snd heq⟩

theorem canonical_canonical (v : Value) : v.canonical.canonical = v.canonical := by
  induction v using induction with
  | null => rfl
  | bool b => rfl
  | int n => rfl
  | float x => rfl
  | string s => rfl
  | array elements ih =>
    rw [canonical_array, canonical_array, List.map_map, array.injEq]
    apply List.map_congr_left
    intro v hv
    exact ih v hv
  | object members ih =>
    rw [canonical_object, canonical_object, object.injEq]
    have hfixed : ∀ entry ∈ (SortedMap.ofList
        (members.map fun member => (member.1, member.2.canonical))).entries,
        (entry.1, entry.2.canonical) = entry := by
      intro entry hentry
      rcases mem_canonicalMembers hentry with ⟨member, hmember, heq⟩
      rw [← heq, ih member hmember, heq]
    rw [List.map_congr_left hfixed, List.map_id', SortedMap.ofList_entries]

theorem IsReadable.canonical {room : Nat} {v : Value} (h : v.IsReadable room)
    : v.canonical.IsReadable room := by
  induction h with
  | null => exact .null _
  | bool => exact .bool _ _
  | int _ hrange => exact .int _ hrange
  | float _ hfinite => exact .float _ hfinite
  | string => exact .string _ _
  | array _ ih =>
    rw [canonical_array]
    refine .array ?_
    intro w hw
    rcases List.mem_map.1 hw with ⟨v, hv, heq⟩
    exact heq ▸ ih v hv
  | object _ ih =>
    rw [canonical_object]
    refine .object ?_
    intro entry hentry
    rcases mem_canonicalMembers hentry with ⟨member, hmember, heq⟩
    exact heq ▸ ih member hmember

/--
Values in which the keys of every object ascend by their UTF-8 bytes.
-/
inductive IsSorted : Value → Prop where
  | null : IsSorted .null
  | bool (b : Bool) : IsSorted (.bool b)
  | int (n : Int) : IsSorted (.int n)
  | float (x : Float) : IsSorted (.float x)
  | string (s : String) : IsSorted (.string s)
  | array {elements : List Value} (h : ∀ v ∈ elements, IsSorted v) : IsSorted (.array elements)
  | object {members : List (String × Value)}
    (hkeys : members.Pairwise fun a b => Text.utf8Bytes a.1 < Text.utf8Bytes b.1)
    (h : ∀ member ∈ members, IsSorted member.2)
    : IsSorted (.object members)

theorem isSorted_canonical (v : Value) : v.canonical.IsSorted := by
  induction v using induction with
  | null => exact .null
  | bool b => exact .bool b
  | int n => exact .int n
  | float x => exact .float x
  | string s => exact .string s
  | array elements ih =>
    rw [canonical_array]
    refine .array ?_
    intro w hw
    rcases List.mem_map.1 hw with ⟨v, hv, heq⟩
    exact heq ▸ ih v hv
  | object members ih =>
    rw [canonical_object]
    refine .object ?_ ?_
    . apply List.Pairwise.imp _ (SortedMap.ofList _).ascending
      intro a b hlt
      exact Text.utf8Bytes_lt hlt
    . intro entry hentry
      rcases mem_canonicalMembers hentry with ⟨member, hmember, heq⟩
      exact heq ▸ ih member hmember

end Value

end Mahjong.Json
