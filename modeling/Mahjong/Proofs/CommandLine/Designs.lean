import Mahjong.CommandLine.Outcome
import Mahjong.Proofs.Text.Split
import Mahjong.SortedMap.Lemmas

/-!
This module contains which designs the options of `render` ask for. Each option is a key and an
address that can be told apart again, and of the options for one key the last one counts. The order
of options for different keys makes no difference to what is drawn and printed.
-/

namespace Mahjong.CommandLine

theorem parseDesign?_write {key address : String} (hkey : key ≠ "") (hfree : '=' ∉ key.toList)
    (haddress : address ≠ "")
    : parseDesign? (key ++ "=" ++ address) = some (key, address) := by
  have htext : (key ++ "=" ++ address).toList = key.toList ++ '=' :: address.toList := by
    simp
  unfold parseDesign?
  rw [htext, Text.splitFirst?_append_cons hfree]
  simp [hkey, haddress]

theorem eq_of_parseDesign? {text key address : String}
    (h : parseDesign? text = some (key, address))
    : text = key ++ "=" ++ address ∧ key ≠ "" ∧ '=' ∉ key.toList ∧ address ≠ "" := by
  unfold parseDesign? at h
  split at h
  . next before after hsplit =>
    rcases Text.eq_append_of_splitFirst? hsplit with ⟨htext, hfree⟩
    split at h
    . contradiction
    . next hne =>
      simp only [List.isEmpty_iff, not_or] at hne
      cases h
      refine ⟨?_, ?_, ?_, ?_⟩
      . apply String.toList_inj.1
        simp [htext]
      . simpa using hne.1
      . simpa using hfree
      . simpa using hne.2
  . contradiction

/--
The values of the design options among the arguments of `render`, in the order given.
-/
def designValues (arguments : List String) : List String :=
  match readItems? renderRules arguments with
  | some items => values items .design
  | none => []

/--
The address that the value of a design option gives for a key, if it gives one.
-/
def addressFor? (key text : String) : Option String :=
  (parseDesign? text).bind fun (k, address) => if k = key then some address else none

/--
Arguments of `render` that differ in the order of their design options only. Those for one key stand
in the same order.
-/
structure ReorderDesigns (arguments others : List String) : Prop where
  exists_items : ∃ items otherItems,
    readItems? renderRules arguments = some items ∧
    readItems? renderRules others = some otherItems ∧
    operands otherItems = operands items ∧
    ∀ option, option ≠ .design → values otherItems option = values items option
  perm : (designValues others).Perm (designValues arguments)
  filter_eq : ∀ key,
    (designValues others).filter (fun text => (addressFor? key text).isSome)
      =
    (designValues arguments).filter (fun text => (addressFor? key text).isSome)

theorem designValues_of_readItems? {arguments : List String} {items : List (Item RenderOption)}
    (h : readItems? renderRules arguments = some items)
    : designValues arguments = values items .design := by
  unfold designValues
  rw [h]

theorem readItems?_design (text : String) (rest : List String)
    : readItems? renderRules (("--design=" ++ text) :: rest)
        =
      (readItems? renderRules rest).map (.option .design text :: ·) := by
  have htext : ("--design=" ++ text).toList
      =
    '-' :: '-' :: ("design".toList ++ '=' :: text.toList) := by
    simp
  have hne : "--design=" ++ text ≠ "--" := by
    intro h
    rw [← String.toList_inj, htext] at h
    simp at h
  have hread : readArgument renderRules ("--design=" ++ text)
      =
    .options [.option .design text] := by
    unfold readArgument
    rw [htext]
    change readWord renderRules _ = _
    unfold readWord
    rw [Text.splitFirst?_append_cons (by decide)]
    simp [renderRules]
  rw [readItems?, if_neg hne, hread]
  rfl

theorem designValues_write (texts : List String)
    : designValues (texts.map ("--design=" ++ ·)) = texts := by
  have hitems : readItems? renderRules (texts.map ("--design=" ++ ·))
      =
    some (texts.map (.option .design)) := by
    induction texts with
    | nil => rfl
    | cons text rest ih =>
      rw [List.map_cons, readItems?_design, ih]
      rfl
  rw [designValues_of_readItems? hitems]
  unfold values
  rw [List.filterMap_map]
  exact List.filterMap_some

theorem mapM_eq_some_iff {α β : Type} {f : α → Option β} {row : List α} {read : List β}
    : row.mapM f = some read ↔ (∀ a ∈ row, (f a).isSome) ∧ row.filterMap f = read := by
  induction row generalizing read with
  | nil => simp
  | cons a row ih =>
    simp only [List.mapM_cons, Option.bind_eq_bind, Option.bind_eq_some_iff, ih,
      List.forall_mem_cons]
    cases h : f a with
    | none => simp
    | some b =>
      rw [List.filterMap_cons_some h]
      constructor
      . rintro ⟨_, hb, _, ⟨hrow, hothers⟩, hread⟩
        cases hb
        cases hread
        exact ⟨⟨rfl, hrow⟩, by rw [hothers]⟩
      . rintro ⟨⟨_, hrow⟩, hread⟩
        exact ⟨b, rfl, _, ⟨hrow, rfl⟩, congrArg some hread⟩

theorem filterMap_addressFor?_of_reorder {arguments others : List String}
    (h : ReorderDesigns arguments others) (key : String)
    : (designValues others).filterMap (addressFor? key)
        =
      (designValues arguments).filterMap (addressFor? key) := by
  have hfilter : ∀ texts : List String,
      texts.filterMap (addressFor? key)
        =
      (texts.filter (fun text => (addressFor? key text).isSome)).filterMap (addressFor? key) := by
    intro texts
    rw [List.filterMap_filter]
    congr
    funext text
    cases addressFor? key text <;> rfl
  rw [hfilter, h.filter_eq, ← hfilter]

namespace RenderOptions

theorem ofArguments?_eq_some_iff {arguments : List String} {items : List (Item RenderOption)}
    (h : readItems? renderRules arguments = some items) (options : RenderOptions)
    : ofArguments? arguments = some options
        ↔
      atMostOne? (operands items) = some options.hand ∧
      path? (values items .input) = some options.input ∧
      atMostOne? (values items .theme) = some options.theme ∧
      atMostOne? (values items .baseUrl) = some options.baseUrl ∧
      (values items .design).mapM parseDesign? = some options.designs ∧
      flag? (values items .json) = some options.json := by
  rcases options with ⟨hand, input, theme, baseUrl, designs, json⟩
  unfold ofArguments?
  rw [h]
  simp only [Option.bind_eq_bind, Option.bind_some, Option.bind_eq_some_iff, Option.pure_def,
    Option.some.injEq, mk.injEq]
  constructor
  . rintro ⟨_, hhand, _, hinput, _, htheme, _, hbase, _, hdesigns, _, hjson,
      rfl, rfl, rfl, rfl, rfl, rfl⟩
    exact ⟨hhand, hinput, htheme, hbase, hdesigns, hjson⟩
  . rintro ⟨hhand, hinput, htheme, hbase, hdesigns, hjson⟩
    exact ⟨_, hhand, _, hinput, _, htheme, _, hbase, _, hdesigns, _, hjson,
      rfl, rfl, rfl, rfl, rfl, rfl⟩

theorem overrides_eq_none_iff (options : RenderOptions)
    : options.overrides = none ↔ options.baseUrl = none ∧ options.designs = [] := by
  unfold overrides
  split
  . next h => simpa using h
  . next h => simpa using h

section

variable {arguments : List String} {options : RenderOptions}
  (hread : ofArguments? arguments = some options)
include hread

theorem filterMap_designValues
    : (∀ text ∈ designValues arguments, (parseDesign? text).isSome) ∧
      (designValues arguments).filterMap parseDesign? = options.designs := by
  cases hitems : readItems? renderRules arguments with
  | none =>
    unfold ofArguments? at hread
    rw [hitems] at hread
    contradiction
  | some items =>
    rw [designValues_of_readItems? hitems]
    apply mapM_eq_some_iff.1
    exact ((ofArguments?_eq_some_iff hitems options).1 hread).2.2.2.2.1

theorem designs_eq_nil_iff : options.designs = [] ↔ designValues arguments = [] := by
  rcases filterMap_designValues hread with ⟨haccepted, hdesigns⟩
  rw [← hdesigns, List.filterMap_eq_nil_iff]
  constructor
  . intro hnone
    apply List.eq_nil_iff_forall_not_mem.2
    intro text htext
    have := haccepted text htext
    rw [hnone text htext] at this
    contradiction
  . intro hnil
    simp [hnil]

/--
Of the addresses that are given for a key the last one counts.
-/
theorem get?_ofList_designs (key : String)
    : (SortedMap.ofList options.designs).get? key
        =
      ((designValues arguments).filterMap (addressFor? key)).getLast? := by
  rw [SortedMap.get?_ofList_eq_getLast?, ← (filterMap_designValues hread).2,
    List.filterMap_filterMap]
  rfl

theorem get?_overrides {overrides : Overrides} (h : options.overrides = some overrides)
    (key : String)
    : overrides.designs.get? key
        =
      ((designValues arguments).filterMap (addressFor? key)).getLast? := by
  unfold RenderOptions.overrides at h
  split at h
  . contradiction
  . cases h
    apply get?_ofList_designs hread

variable {others : List String} (h : ReorderDesigns arguments others)
include h

theorem exists_of_reorder : ∃ designs, ofArguments? others = some { options with designs } := by
  rcases h.exists_items with ⟨items, otherItems, hitems, hother, hoperands, hvalues⟩
  rcases filterMap_designValues hread with ⟨haccepted, _⟩
  rw [ofArguments?_eq_some_iff hitems] at hread
  rcases hread with ⟨hhand, hinput, htheme, hbase, _, hjson⟩
  refine ⟨(designValues others).filterMap parseDesign?, ?_⟩
  rw [ofArguments?_eq_some_iff hother, hoperands, hvalues .input (by decide),
    hvalues .theme (by decide), hvalues .baseUrl (by decide), hvalues .json (by decide),
    ← designValues_of_readItems? hother, mapM_eq_some_iff]
  refine ⟨hhand, hinput, htheme, hbase, ⟨?_, rfl⟩, hjson⟩
  intro text htext
  apply haccepted
  exact h.perm.mem_iff.1 htext

theorem overrides_of_reorder {designs : List (String × String)}
    (hother : ofArguments? others = some { options with designs })
    : overrides { options with designs } = options.overrides := by
  have hmap : SortedMap.ofList designs = SortedMap.ofList options.designs := by
    apply SortedMap.ext_get?
    intro key
    rw [get?_ofList_designs hread, ← filterMap_addressFor?_of_reorder h]
    exact get?_ofList_designs hother key
  have hperm : designs.Perm options.designs := by
    rw [← (filterMap_designValues hread).2]
    have hdesigns := (filterMap_designValues hother).2
    dsimp only at hdesigns
    rw [← hdesigns]
    exact h.perm.filterMap parseDesign?
  unfold overrides
  dsimp only
  rw [hmap, hperm.isEmpty_eq]

end

theorem renderAll_congr {options other : RenderOptions}
    (hrequest : ∀ hand, other.request hand = options.request hand)
    (hjson : other.json = options.json) (catalog : Catalog) (hands : List String)
    : other.renderAll catalog hands = options.renderAll catalog hands := by
  have hline : ∀ r, other.line r = options.line r := by
    intro r
    unfold line
    rw [hjson]
  induction hands with
  | nil => rfl
  | cons hand rest ih =>
    unfold renderAll
    simp only [hrequest, hline, ih]

end RenderOptions

/--
What follows a command is not read together with what stands before it.
-/
theorem readCommand?_append {ν : Type} {rules : List (OptionRule ν)} {arguments : List String}
    {items : List (Item ν)} {name : String} {rest : List String}
    (h : readCommand? rules arguments = some (items, name, rest)) (more : List String)
    : readCommand? rules (arguments ++ more) = some (items, name, rest ++ more) := by
  fun_induction readCommand? rules arguments generalizing items with
  | case1 => contradiction
  | case2 argument tail hread => contradiction
  | case3 argument tail hread =>
    cases h
    rw [List.cons_append, readCommand?, hread]
  | case4 argument tail read hread ih =>
    rcases Option.map_eq_some_iff.1 h with ⟨⟨before, split⟩, hsplit, heq⟩
    cases heq
    rw [List.cons_append, readCommand?, hread]
    dsimp only
    rw [ih hsplit]
    rfl
  | case5 argument read last hread => contradiction
  | case6 argument read last hread value tail hvalue ih =>
    rcases Option.map_eq_some_iff.1 h with ⟨⟨before, split⟩, hsplit, heq⟩
    cases heq
    rw [List.cons_append, List.cons_append, readCommand?, hread]
    dsimp only
    rw [if_pos hvalue, ih hsplit]
    rfl
  | case7 => contradiction

namespace Invocation

theorem ofArguments?_render {globals arguments : List String} {items : List (Item GlobalOption)}
    {options : RenderOptions}
    (hcommand : readCommand? globalRules (globals ++ ["render"]) = some (items, "render", []))
    (hread : RenderOptions.ofArguments? arguments = some options)
    : ofArguments? (globals ++ "render" :: arguments)
        =
      (path? (values items .themesDirectory)).bind fun directory =>
        (flag? (values items .verbose)).bind fun verbose =>
          some ⟨directory.getD "themes", verbose, .render options⟩ := by
  have happend := readCommand?_append hcommand arguments
  rw [List.append_assoc, List.singleton_append, List.nil_append] at happend
  unfold ofArguments? Command.ofArguments?
  rw [happend]
  simp only [Option.bind_eq_bind, Option.bind_some, Option.pure_def, hread, Option.map_some]

theorem run_congr {options : RenderOptions} {designs : List (String × String)}
    (hrequest : ∀ hand, RenderOptions.request { options with designs } hand = options.request hand)
    (directory : String) (verbose : Bool) (env : Environment)
    : run ⟨directory, verbose, .render { options with designs }⟩ env
        =
      run ⟨directory, verbose, .render options⟩ env := by
  have hhands : RenderOptions.hands { options with designs } env = options.hands env := by
    rfl
  have hall := RenderOptions.renderAll_congr hrequest rfl
  unfold run Command.run
  simp only [hhands, hall]

end Invocation

/--
The value of a design option is a key, an equals sign and an address, and both can be read off it
again. The overrides have for each key the last address that is given for it, so that the order of
options for different keys changes no request, no drawing with its hashes, and nothing that is
printed.
-/
theorem designs_of_designValues
    : (∀ text key address,
        parseDesign? text = some (key, address)
          ↔
        text = key ++ "=" ++ address ∧ key ≠ "" ∧ '=' ∉ key.toList ∧ address ≠ "") ∧
      (∀ texts, designValues (texts.map ("--design=" ++ ·)) = texts) ∧
      (∀ arguments options,
        RenderOptions.ofArguments? arguments = some options →
        (∀ text ∈ designValues arguments, (parseDesign? text).isSome) ∧
        (options.overrides = none ↔ options.baseUrl = none ∧ designValues arguments = []) ∧
        ∀ overrides key,
          options.overrides = some overrides →
          overrides.designs.get? key
            =
          ((designValues arguments).filterMap (addressFor? key)).getLast?) ∧
      ∀ arguments others options,
        ReorderDesigns arguments others →
        RenderOptions.ofArguments? arguments = some options →
        ∃ other,
          RenderOptions.ofArguments? others = some other ∧
          (∀ hand, other.request hand = options.request hand) ∧
          (∀ (catalog : Catalog) hand,
            catalog.render (other.request hand) = catalog.render (options.request hand)) ∧
          ∀ globals items env,
            readCommand? globalRules (globals ++ ["render"]) = some (items, "render", []) →
            run (globals ++ "render" :: others) env = run (globals ++ "render" :: arguments) env := by
  refine ⟨?_, designValues_write, ?_, ?_⟩
  . intro text key address
    constructor
    . exact eq_of_parseDesign?
    . rintro ⟨htext, hkey, hfree, haddress⟩
      rw [htext]
      exact parseDesign?_write hkey hfree haddress
  . intro arguments options hread
    refine ⟨(RenderOptions.filterMap_designValues hread).1, ?_, ?_⟩
    . rw [RenderOptions.overrides_eq_none_iff, RenderOptions.designs_eq_nil_iff hread]
    . intro overrides key hoverrides
      exact RenderOptions.get?_overrides hread hoverrides key
  . intro arguments others options hreorder hread
    rcases RenderOptions.exists_of_reorder hread hreorder with ⟨designs, hother⟩
    have hrequest : ∀ hand,
        RenderOptions.request { options with designs } hand = options.request hand := by
      intro hand
      unfold RenderOptions.request
      rw [RenderOptions.overrides_of_reorder hread hreorder hother]
    refine ⟨_, hother, hrequest, ?_, ?_⟩
    . intro catalog hand
      rw [hrequest]
    . intro globals items env hcommand
      unfold run
      rw [Invocation.ofArguments?_render hcommand hread,
        Invocation.ofArguments?_render hcommand hother]
      cases path? (values items .themesDirectory) with
      | none => rfl
      | some directory =>
        cases flag? (values items .verbose) with
        | none => rfl
        | some verbose => exact Invocation.run_congr hrequest _ verbose env

theorem designs_of_designValues_call
    : let arguments := ["1m", "--design", "1m=a.svg", "--design=base=b?v=2", "--design", "1m=c.svg"]
      let others := ["--design", "base=b?v=2", "--design=1m=a.svg", "1m", "--design=1m=c.svg"]
      let options : RenderOptions :=
        { hand := "1m", designs := [("1m", "a.svg"), ("base", "b?v=2"), ("1m", "c.svg")] }
      parseDesign? "base=b?v=2" = some ("base", "b?v=2") ∧
      RenderOptions.ofArguments? arguments = some options ∧
      ReorderDesigns arguments others ∧
      (∀ overrides, options.overrides = some overrides →
        overrides.designs.get? "1m" = some "c.svg" ∧ overrides.designs.get? "2m" = none) ∧
      ∃ other,
        RenderOptions.ofArguments? others = some other ∧
        (∀ hand, other.request hand = options.request hand) ∧
        ∀ env, run ("-v" :: "render" :: others) env = run ("-v" :: "render" :: arguments) env := by
  intro arguments others options
  have hread : RenderOptions.ofArguments? arguments = some options := by
    rfl
  have hreorder : ReorderDesigns arguments others := by
    have hvalues : designValues arguments = ["1m=a.svg", "base=b?v=2", "1m=c.svg"] := by
      rfl
    have hothers : designValues others = ["base=b?v=2", "1m=a.svg", "1m=c.svg"] := by
      rfl
    constructor
    . refine ⟨_, _, rfl, rfl, rfl, ?_⟩
      intro option hoption
      cases option with
      | design => contradiction
      | _ => rfl
    . rw [hvalues, hothers]
      apply List.Perm.swap
    . intro key
      rw [hvalues, hothers]
      have haddress : addressFor? key "1m=a.svg" = if "1m" = key then some "a.svg" else none := by
        rfl
      by_cases hkey : "1m" = key
      . rw [← hkey]
        rfl
      . rw [if_neg hkey] at haddress
        simp [List.filter_cons, haddress]
  rcases designs_of_designValues with ⟨hparse, _, hdesigns, hreorders⟩
  rcases hreorders arguments others options hreorder hread with ⟨other, hother, hrequest, _, hrun⟩
  refine ⟨?_, hread, hreorder, ?_, other, hother, hrequest, ?_⟩
  . apply (hparse _ _ _).2
    decide
  . intro overrides hoverrides
    have hget := (hdesigns arguments options hread).2.2 overrides
    exact ⟨hget "1m" hoverrides, hget "2m" hoverrides⟩
  . intro env
    exact hrun ["-v"] _ env rfl

end Mahjong.CommandLine
