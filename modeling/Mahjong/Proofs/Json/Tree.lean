import Mahjong.Json.Tree
import Mahjong.Json.Printer
import Mahjong.Proofs.Json.Numeral

/-!
This module contains the tokens that a tree is read from and the tree that the text of a value has.
Reading the tokens of a tree yields the tree, and the tree of a value that can be read has that
value.
-/

namespace Mahjong.Json

namespace Tree

mutual

def tokens : Tree → List Token
  | .null => [.null]
  | .bool b => [.bool b]
  | .number n => [.number n]
  | .string s => [.string s]
  | .array [] => [.openArray, .closeArray]
  | .array (tree :: rest) => .openArray :: tree.tokens ++ elementTokens rest ++ [.closeArray]
  | .object [] => [.openObject, .closeObject]
  | .object ((key, tree) :: rest) =>
    .openObject :: .string key :: .colon :: tree.tokens ++ memberTokens rest ++ [.closeObject]

def elementTokens : List Tree → List Token
  | [] => []
  | tree :: rest => .comma :: tree.tokens ++ elementTokens rest

def memberTokens : List (Option String × Tree) → List Token
  | [] => []
  | (key, tree) :: rest =>
    .comma :: .string key :: .colon :: tree.tokens ++ memberTokens rest

end

namespace Scan

theorem run?_firstElement (frames : List Frame) (tree : Tree)
    : run? step? ⟨frames, .firstElement⟩ tree.tokens = run? step? ⟨frames, .value⟩ tree.tokens := by
  cases tree with
  | null => rfl
  | bool b => rfl
  | number n => rfl
  | string s => rfl
  | array elements =>
    cases elements with
    | nil => rfl
    | cons tree rest =>
      unfold tokens
      rfl
  | object members =>
    cases members with
    | nil => rfl
    | cons member rest =>
      unfold tokens
      rfl

mutual

theorem run?_tokens (frames : List Frame) (tree : Tree)
    : run? step? ⟨frames, .value⟩ tree.tokens = some ⟨frames, .afterPart tree⟩ := by
  cases tree with
  | null => rfl
  | bool b => rfl
  | number n => rfl
  | string s => rfl
  | array elements =>
    cases elements with
    | nil => simp [tokens, run?_cons, step?, value?]
    | cons tree rest =>
      have hopen : step? ⟨frames, .value⟩ Token.openArray
          =
        some ⟨.array [] :: frames, .firstElement⟩ := by
        rfl
      unfold tokens
      rw [List.cons_append, List.cons_append, List.append_assoc, run?_cons, hopen,
        Option.bind_some, run?_append, run?_firstElement, run?_tokens (.array [] :: frames) tree,
        Option.bind_some, run?_elementTokens frames [] tree rest]
      rfl
  | object members =>
    cases members with
    | nil => simp [tokens, run?_cons, step?, value?]
    | cons member rest =>
      rcases member with ⟨key, tree⟩
      have hopen : run? step? ⟨frames, .value⟩ [Token.openObject, Token.string key, Token.colon]
          =
        some ⟨.object [] key :: frames, .value⟩ := by
        simp [run?_cons, step?, value?]
      have htokens : tokens (.object ((key, tree) :: rest))
          =
        [Token.openObject, Token.string key, Token.colon] ++ tree.tokens ++
          (memberTokens rest ++ [Token.closeObject]) := by
        simp [tokens]
      rw [htokens, run?_append, run?_append, hopen, Option.bind_some,
        run?_tokens (.object [] key :: frames) tree, Option.bind_some,
        run?_memberTokens frames [] key tree rest]
      rfl

theorem run?_elementTokens (frames : List Frame) (before : List Tree) (part : Tree)
    (elements : List Tree)
    : run? step? ⟨.array before :: frames, .afterPart part⟩
        (elementTokens elements ++ [Token.closeArray])
        =
      some ⟨frames, .afterPart (.array (before.reverse ++ part :: elements))⟩ := by
  cases elements with
  | nil =>
    unfold elementTokens
    simp [run?_cons, step?, afterPart?]
  | cons tree rest =>
    have hcomma : step? ⟨.array before :: frames, .afterPart part⟩ Token.comma
        =
      some ⟨.array (part :: before) :: frames, .value⟩ := by
      rfl
    unfold elementTokens
    rw [List.cons_append, List.cons_append, List.append_assoc, run?_cons, hcomma,
      Option.bind_some, run?_append, run?_tokens (.array (part :: before) :: frames) tree,
      Option.bind_some, run?_elementTokens frames (part :: before) tree rest]
    simp

theorem run?_memberTokens (frames : List Frame) (before : List (Option String × Tree))
    (key : Option String) (part : Tree) (members : List (Option String × Tree))
    : run? step? ⟨.object before key :: frames, .afterPart part⟩
        (memberTokens members ++ [Token.closeObject])
        =
      some ⟨frames, .afterPart (.object (before.reverse ++ (key, part) :: members))⟩ := by
  cases members with
  | nil =>
    unfold memberTokens
    simp [run?_cons, step?, afterPart?]
  | cons member rest =>
    rcases member with ⟨next, tree⟩
    have hcomma : run? step? ⟨.object before key :: frames, .afterPart part⟩
        [Token.comma, Token.string next, Token.colon]
        =
      some ⟨.object ((key, part) :: before) next :: frames, .value⟩ := by
      simp [run?_cons, step?, afterPart?]
    have htokens : memberTokens ((next, tree) :: rest) ++ [Token.closeObject]
        =
      [Token.comma, Token.string next, Token.colon] ++ tree.tokens ++
        (memberTokens rest ++ [Token.closeObject]) := by
      simp [memberTokens]
    rw [htokens, run?_append, run?_append, hcomma, Option.bind_some,
      run?_tokens (.object ((key, part) :: before) next :: frames) tree, Option.bind_some,
      run?_memberTokens frames ((key, part) :: before) next tree rest]
    simp

end

end Scan

theorem ofTokens?_tokens (tree : Tree) : ofTokens? tree.tokens = some tree := by
  have hrun : tree.tokens.foldlM Scan.step? {} = some ⟨[], .afterPart tree⟩ :=
    Scan.run?_tokens [] tree
  unfold ofTokens?
  rw [hrun]
  rfl

end Tree

mutual

/--
The tree of the text of a value. A float that is written without digits is written as null.
-/
def Value.tree : Value → Tree
  | .null => .null
  | .bool b => .bool b
  | .int n => .number ⟨decide (n < 0), ⟨n.natAbs, 0⟩, true⟩
  | .float x =>
    match Numeral.ofText? (writeFloat x) with
    | some numeral => .number numeral
    | none => .null
  | .string s => .string (some s)
  | .array elements => .array (elementTrees elements)
  | .object members => .object (memberTrees members)

def elementTrees : List Value → List Tree
  | [] => []
  | v :: rest => v.tree :: elementTrees rest

def memberTrees : List (String × Value) → List (Option String × Tree)
  | [] => []
  | (key, v) :: rest => (some key, v.tree) :: memberTrees rest

end

/--
The values that can be read from a text, nested at most `room` levels deep.
-/
inductive Value.IsReadable : Nat → Value → Prop where
  | null (room : Nat) : IsReadable room .null
  | bool (room : Nat) (b : Bool) : IsReadable room (.bool b)
  | int (room : Nat) {n : Int} (h : Numeral.InRange n) : IsReadable room (.int n)
  | float (room : Nat) {x : Float} (h : Decimal.isFinite x) : IsReadable room (.float x)
  | string (room : Nat) (s : String) : IsReadable room (.string s)
  | array {room : Nat} {elements : List Value} (h : ∀ v ∈ elements, IsReadable room v)
    : IsReadable (room + 1) (.array elements)
  | object {room : Nat} {members : List (String × Value)}
    (h : ∀ member ∈ members, IsReadable room member.2)
    : IsReadable (room + 1) (.object members)

namespace Tree

theorem values?_elementTrees {room : Nat} {elements : List Value}
    (h : ∀ v ∈ elements, value? room v.tree = some v)
    : values? room (elementTrees elements) = some elements := by
  induction elements with
  | nil => rfl
  | cons v rest ih =>
    rcases List.forall_mem_cons.1 h with ⟨hv, hrest⟩
    unfold elementTrees values?
    rw [hv, ih hrest]
    rfl

theorem memberValues?_memberTrees {room : Nat} {members : List (String × Value)}
    (h : ∀ member ∈ members, value? room member.2.tree = some member.2)
    : memberValues? room (memberTrees members) = some members := by
  induction members with
  | nil => rfl
  | cons member rest ih =>
    rcases List.forall_mem_cons.1 h with ⟨hmember, hrest⟩
    unfold memberTrees memberValues?
    rw [hmember, ih hrest]
    rfl

theorem value?_tree {room : Nat} {v : Value} (h : v.IsReadable room)
    : value? room v.tree = some v := by
  induction h with
  | null => simp [Value.tree, value?]
  | bool => simp [Value.tree, value?]
  | int _ hrange =>
    unfold Value.tree value?
    exact Numeral.toValue?_int hrange
  | float _ hfinite =>
    rcases Numeral.ofText?_writeFinite hfinite with ⟨numeral, htext, hvalue⟩
    unfold Value.tree writeFloat
    simp only [hfinite, if_true, htext]
    unfold value?
    exact hvalue
  | string => simp [Value.tree, value?]
  | array _ ih =>
    unfold Value.tree value?
    dsimp only
    rw [values?_elementTrees ih]
    rfl
  | object _ ih =>
    unfold Value.tree value?
    dsimp only
    rw [memberValues?_memberTrees ih]
    rfl

mutual

theorem isReadable_of_value? {room : Nat} {tree : Tree} {v : Value} (h : tree.value? room = some v)
    : v.IsReadable room := by
  cases tree with
  | null =>
    simp only [value?, Option.some.injEq] at h
    exact h ▸ .null room
  | bool b =>
    simp only [value?, Option.some.injEq] at h
    exact h ▸ .bool room b
  | number n =>
    rcases Numeral.toValue?_cases h with ⟨i, hv, hrange⟩ | ⟨x, hv, hfinite⟩
    . exact hv ▸ .int room hrange
    . exact hv ▸ .float room hfinite
  | string s =>
    cases s with
    | none => contradiction
    | some s =>
      simp only [value?, Option.map_some, Option.some.injEq] at h
      exact h ▸ .string room s
  | array elements =>
    cases room with
    | zero => contradiction
    | succ room =>
      rcases Option.map_eq_some_iff.1 h with ⟨vs, hvs, hv⟩
      exact hv ▸ .array (isReadable_of_values? hvs)
  | object members =>
    cases room with
    | zero => contradiction
    | succ room =>
      rcases Option.map_eq_some_iff.1 h with ⟨vs, hvs, hv⟩
      exact hv ▸ .object (isReadable_of_memberValues? hvs)

theorem isReadable_of_values? {room : Nat} {trees : List Tree} {vs : List Value}
    (h : values? room trees = some vs)
    : ∀ v ∈ vs, v.IsReadable room := by
  cases trees with
  | nil =>
    simp only [values?, Option.some.injEq] at h
    simp [← h]
  | cons tree rest =>
    simp only [values?, Option.bind_eq_bind, Option.bind_eq_some_iff, Option.pure_def,
      Option.some.injEq] at h
    rcases h with ⟨v, hv, ws, hws, hcons⟩
    rw [← hcons]
    exact List.forall_mem_cons.2 ⟨isReadable_of_value? hv, isReadable_of_values? hws⟩

theorem isReadable_of_memberValues? {room : Nat} {trees : List (Option String × Tree)}
    {members : List (String × Value)} (h : memberValues? room trees = some members)
    : ∀ member ∈ members, member.2.IsReadable room := by
  cases trees with
  | nil =>
    simp only [memberValues?, Option.some.injEq] at h
    simp [← h]
  | cons tree rest =>
    rcases tree with ⟨key, tree⟩
    simp only [memberValues?, Option.bind_eq_bind, Option.bind_eq_some_iff, Option.pure_def,
      Option.some.injEq] at h
    rcases h with ⟨name, _, v, hv, vs, hvs, hcons⟩
    rw [← hcons]
    exact List.forall_mem_cons.2 ⟨isReadable_of_value? hv, isReadable_of_memberValues? hvs⟩

end

end Tree

end Mahjong.Json
