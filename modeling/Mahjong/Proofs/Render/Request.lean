import Mahjong.Proofs.Json.Canonical
import Mahjong.Render.Request

/-!
This module contains the proof that the JSON form of a request can be read, and that no two requests
have the same one.
-/

namespace Mahjong

open Json

namespace Json.Value

theorem same_member {members others : List (String × Value)} {key : String} {v w : Value}
    (h : Same (.object members) (.object others)) (hv : lastMember? members key = some v)
    (hw : lastMember? others key = some w)
    : Same v w := by
  cases h with
  | object _ h => exact h key v w hv hw

theorem eq_of_same_string {a b : String} (h : Same (.string a) (.string b)) : a = b := by
  cases h with
  | string => rfl

theorem eq_of_same_nullable {α : Type} {toValue : α → Value}
    (hne : ∀ a, ¬ Same .null (toValue a) ∧ ¬ Same (toValue a) .null)
    (hinj : ∀ a b, Same (toValue a) (toValue b) → a = b)
    {x y : Option α} (h : Same (x.elim .null toValue) (y.elim .null toValue))
    : x = y := by
  cases x with
  | none =>
    cases y with
    | none => rfl
    | some b =>
      have := (hne b).1 h
      contradiction
  | some a =>
    cases y with
    | none =>
      have := (hne a).2 h
      contradiction
    | some b => rw [hinj a b h]

end Json.Value

open Json.Value

theorem lastMember?_designs (designs : SortedMap String) (key : String)
    : lastMember? (designs.map Value.string).entries key = (designs.get? key).map Value.string := by
  unfold lastMember?
  rw [SortedMap.lookup_reverse (designs.map Value.string).ascending]
  exact SortedMap.get?_map Value.string designs key

theorem eq_of_same_designs {designs others : SortedMap String}
    (h : Same (designsToValue designs) (designsToValue others))
    : designs = others := by
  apply SortedMap.ext_get?
  intro key
  cases h with
  | object hkeys h =>
    have hkey := hkeys key
    have hmember := h key
    rw [lastMember?_designs, lastMember?_designs] at hkey
    simp only [lastMember?_designs] at hmember
    cases ha : designs.get? key with
    | none =>
      cases hb : others.get? key with
      | none => rfl
      | some b => simp [ha, hb] at hkey
    | some a =>
      cases hb : others.get? key with
      | none => simp [ha, hb] at hkey
      | some b =>
        rw [ha, hb] at hmember
        rw [eq_of_same_string (hmember _ _ rfl rfl)]

theorem isReadable_designs (room : Nat) (designs : SortedMap String)
    : (designsToValue designs).IsReadable (room + 1) := by
  refine .object ?_
  intro member hmember
  rcases List.mem_map.1 hmember with ⟨entry, _, heq⟩
  exact heq ▸ .string room entry.2

namespace Overrides

theorem isReadable_toValue (room : Nat) (overrides : Overrides)
    : overrides.toValue.IsReadable (room + 2) := by
  refine .object ?_
  simp only [toMembers, List.forall_mem_cons]
  refine ⟨?_, isReadable_designs room overrides.designs, by simp⟩
  cases overrides.baseUrl with
  | none => exact .null _
  | some base => exact .string _ base

theorem eq_of_same_toValue {overrides others : Overrides}
    (h : Same overrides.toValue others.toValue)
    : overrides = others := by
  have hbase : overrides.baseUrl = others.baseUrl := by
    have hsame := @same_member _ _ "baseUrl" _ _ h rfl rfl
    refine eq_of_same_nullable ?_ (fun _ _ => eq_of_same_string) hsame
    intro base
    exact ⟨nofun, nofun⟩
  have hdesigns : overrides.designs = others.designs := by
    exact eq_of_same_designs (@same_member _ _ "tileDesigns" _ _ h rfl rfl)
  cases overrides
  cases others
  simp_all

end Overrides

namespace Request

theorem isReadable_toValue (room : Nat) (request : Request)
    : request.toValue.IsReadable (room + 3) := by
  refine .object ?_
  simp only [toMembers, List.forall_mem_cons]
  refine ⟨.string _ request.hand, ?_, ?_, by simp⟩
  . cases request.theme with
    | none => exact .null _
    | some id => exact .string _ id
  . cases request.overrides with
    | none => exact .null _
    | some overrides => exact Overrides.isReadable_toValue room overrides

theorem eq_of_same_toValue {request other : Request} (h : Same request.toValue other.toValue)
    : request = other := by
  have hhand : request.hand = other.hand := by
    exact eq_of_same_string (@same_member _ _ "notation" _ _ h rfl rfl)
  have htheme : request.theme = other.theme := by
    have hsame := @same_member _ _ "theme" _ _ h rfl rfl
    refine eq_of_same_nullable ?_ (fun _ _ => eq_of_same_string) hsame
    intro id
    exact ⟨nofun, nofun⟩
  have hoverrides : request.overrides = other.overrides := by
    have hsame := @same_member _ _ "overrides" _ _ h rfl rfl
    refine eq_of_same_nullable ?_ (fun _ _ => Overrides.eq_of_same_toValue) hsame
    intro overrides
    exact ⟨nofun, nofun⟩
  cases request
  cases other
  simp_all

end Request

end Mahjong
