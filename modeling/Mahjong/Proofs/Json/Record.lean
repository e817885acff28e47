import Mahjong.Json.Record
import Mahjong.SortedMap.Lemmas
import Mahjong.Proofs.Json.Text

/-!
This module contains the reading of records from the trees of their own JSON forms, field by field,
and `RoundTrips`, which holds of a JSON form if writing and reading undo each other.
-/

namespace Mahjong.Json

/--
Read a text as a value of some type.
-/
def read? {α : Type} (ofTree? : Tree → Option α) (text : String) : Option α := do
  let tree ← Tree.ofText? text
  ofTree? tree

/--
What is written is read as what it was written for, on one line and indented. What is read from any
text can be written and read again without a change, as far as its text too.
-/
def RoundTrips {α : Type} (toValue : α → Value) (ofTree? : Tree → Option α)
    (IsFinite : α → Prop) : Prop :=
  ∀ write ∈ [Value.compact, Value.indented],
    (∀ a, IsFinite a → read? ofTree? (write (toValue a)) = some a) ∧
    ∀ text a, read? ofTree? text = some a →
      ∃ b, read? ofTree? (write (toValue a)) = some b ∧ b = a ∧
        write (toValue b) = write (toValue a)

theorem read?_write {α : Type} (ofTree? : Tree → Option α) (v : Value) {write : Value → String}
    (hwrite : write ∈ [Value.compact, Value.indented])
    : read? ofTree? (write v) = ofTree? v.tree := by
  have htree : Tree.ofText? (write v) = some v.tree := by
    simp only [List.mem_cons, List.not_mem_nil, or_false] at hwrite
    rcases hwrite with hwrite | hwrite
    . rw [hwrite]
      apply Tree.ofText?_write Spacing.isBlank_compact
    . rw [hwrite]
      apply Tree.ofText?_write Spacing.isBlank_indented
  unfold read?
  rw [htree]
  rfl

theorem RoundTrips.of_tree {α : Type} {toValue : α → Value} {ofTree? : Tree → Option α}
    {IsFinite : α → Prop} (htree : ∀ a, IsFinite a → ofTree? (toValue a).tree = some a)
    (hfinite : ∀ tree a, ofTree? tree = some a → IsFinite a)
    : RoundTrips toValue ofTree? IsFinite := by
  intro write hwrite
  have hread : ∀ a, IsFinite a → read? ofTree? (write (toValue a)) = some a := by
    intro a ha
    rw [read?_write ofTree? (toValue a) hwrite, htree a ha]
  constructor
  . assumption
  . intro text a h
    rcases Option.bind_eq_some_iff.1 h with ⟨tree, _, ha⟩
    exact ⟨a, hread a (hfinite tree a ha), rfl, rfl⟩

theorem RoundTrips.read?_again {α : Type} {toValue : α → Value} {ofTree? : Tree → Option α}
    {IsFinite : α → Prop} (h : RoundTrips toValue ofTree? IsFinite) {write : Value → String}
    (hwrite : write ∈ [Value.compact, Value.indented]) {text : String} {a : α}
    (hread : read? ofTree? text = some a)
    : read? ofTree? (write (toValue a)) = some a := by
  rcases (h write hwrite).2 text a hread with ⟨b, hagain, heq, _⟩
  rw [hagain, heq]

theorem mapM_map_of_read {α β : Type} {write : α → β} {read : β → Option α}
    (h : ∀ a, read (write a) = some a) (row : List α)
    : (row.map write).mapM read = some row := by
  have hread : read ∘ write = pure := by
    funext a
    apply h
  rw [List.mapM_map, hread, List.mapM_pure, List.map_id']
  rfl

theorem elementTrees_eq_map (elements : List Value)
    : elementTrees elements = elements.map Value.tree := by
  induction elements with
  | nil => rfl
  | cons v rest ih =>
    unfold elementTrees
    rw [ih, List.map_cons]

theorem memberTrees_eq_map (members : List (String × Value))
    : memberTrees members = members.map fun member => (some member.1, member.2.tree) := by
  induction members with
  | nil => rfl
  | cons member rest ih =>
    unfold memberTrees
    rw [ih, List.map_cons]

/--
The fields of a record whose members have some values.
-/
def fieldTrees (members : List (String × Value)) : List (String × Tree) :=
  members.map fun member => (member.1, member.2.tree)

theorem pick?_of_sublist {α : Type} {names : List String} (hnodup : names.Nodup)
    {members : List (String × α)} (h : (members.map (·.1)).Sublist names)
    : pick? names members = some members := by
  have hknown : members.filter (names.contains ·.1) = members := by
    apply List.filter_eq_self.2
    intro member hmember
    have := h.subset (List.mem_map_of_mem hmember)
    simpa using this
  unfold pick?
  dsimp only
  rw [hknown, if_pos (hnodup.sublist h)]

namespace Tree

/--
An object all of whose keys name texts.
-/
def ofMembers (members : List (String × Tree)) : Tree :=
  .object (members.map fun member => (some member.1, member.2))

theorem members?_ofMembers (members : List (String × Tree))
    : (ofMembers members).members? = some members := by
  unfold ofMembers members?
  dsimp only
  rw [List.mapM_map]
  exact List.mapM_pure.trans (congrArg some (List.map_id' members))

theorem fields?_ofMembers (names : List String) (members : List (String × Tree))
    : (ofMembers members).fields? names = pick? names members := by
  have hfields : (ofMembers members).fields? names
      =
    (ofMembers members).members?.bind (pick? names) := by
    rfl
  rw [hfields, members?_ofMembers, Option.bind_some]

theorem tree_object (members : List (String × Value))
    : (Value.object members).tree = ofMembers (fieldTrees members) := by
  unfold Value.tree ofMembers fieldTrees
  rw [memberTrees_eq_map, List.map_map]
  rfl

theorem members?_tree (members : List (String × Value))
    : (Value.object members).tree.members? = some (fieldTrees members) := by
  rw [tree_object, members?_ofMembers]

theorem fields?_tree {names : List String} {members : List (String × Value)}
    (hnames : members.map (·.1) = names) (hnodup : names.Nodup)
    : (Value.object members).tree.fields? names = some (fieldTrees members) := by
  have hkeys : (fieldTrees members).map (·.1) = names := by
    rw [← hnames]
    simp [fieldTrees]
  rw [tree_object, fields?_ofMembers]
  apply pick?_of_sublist hnodup
  rw [hkeys]

theorem string?_tree (s : String) : (Value.string s).tree.string? = some s := by
  rfl

theorem float?_tree_of_isFinite {x : Float} (h : Decimal.isFinite x)
    : (Value.float x).tree.float? = some x := by
  rcases Numeral.ofText?_writeFinite h with ⟨numeral, htext, hvalue⟩
  have hfloat : numeral.toFloat? = some x := by
    unfold Numeral.toValue? at hvalue
    split at hvalue
    . have := Option.some.inj hvalue
      contradiction
    . rcases Option.map_eq_some_iff.1 hvalue with ⟨y, hy, heq⟩
      rw [hy, Value.float.inj heq]
  unfold Value.tree writeFloat
  rw [if_pos h, htext]
  exact hfloat

theorem float?_tree_of_not_isFinite {x : Float} (h : ¬Decimal.isFinite x)
    : (Value.float x).tree.float? = none := by
  unfold Value.tree writeFloat
  rw [if_neg h]
  rfl

theorem isFinite_of_float? {tree : Tree} {x : Float} (h : tree.float? = some x)
    : Decimal.isFinite x := by
  unfold float? at h
  split at h
  . rcases Option.map_eq_some_iff.1 h with ⟨code, hcode, heq⟩
    rw [← heq]
    apply Decimal.isFinite_ofCode
    apply Decimal.lt_of_toCode? hcode
  . contradiction

theorem nullable?_tree {α : Type} {toValue : α → Value} {read : Tree → Option α}
    (hnull : ∀ a, (toValue a).tree ≠ .null) (hread : ∀ a, read (toValue a).tree = some a)
    (x : Option α)
    : nullable? read (x.elim .null toValue).tree = some x := by
  cases x with
  | none => rfl
  | some a =>
    have hread := hread a
    have hnull := hnull a
    dsimp only [Option.elim]
    generalize (toValue a).tree = tree at *
    unfold nullable?
    split
    . contradiction
    . rw [hread]
      rfl

theorem nullable?_string (x : Option String)
    : nullable? string? (x.elim .null Value.string).tree = some x := by
  apply nullable?_tree
  . simp [Value.tree]
  . apply string?_tree

end Tree

theorem required?_fieldTrees {β : Type} {members : List (String × Value)} {name : String}
    {v : Value} (h : members.lookup name = some v) (read : Tree → Option β)
    : required? (fieldTrees members) name read = read v.tree := by
  unfold required? fieldTrees
  rw [SortedMap.lookup_map, h]
  rfl

theorem isFinite_of_required? {fields : List (String × Tree)} {name : String} {x : Float}
    (h : required? fields name Tree.float? = some x)
    : Decimal.isFinite x := by
  rcases Option.bind_eq_some_iff.1 h with ⟨tree, _, hx⟩
  exact Tree.isFinite_of_float? hx

end Mahjong.Json
