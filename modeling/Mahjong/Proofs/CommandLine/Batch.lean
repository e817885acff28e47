import Mahjong.CommandLine.Outcome
import Mahjong.Proofs.Json.Data
import Mahjong.Proofs.Json.Line
import Mahjong.Proofs.Json.Text
import Mahjong.Proofs.Render.Json
import Mahjong.Proofs.Render.Rendering

/-!
This module contains what the commands print. Many hands that are drawn at once share a theme and
its overrides, so that if any of them cannot be drawn the first one cannot.
-/

namespace Mahjong.CommandLine

open Json

theorem exists_errorLine (message : String)
    : ∃ text,
        errorLine message = text ++ "\n" ∧
        '\n' ∉ text.toList ∧
        Value.ofText? text
          =
        some (.object [("error", .string message), ("success", .bool false)]) := by
  refine ⟨_, rfl, newline_not_mem_compact _, ?_⟩
  apply Value.ofText?_compact
  apply Value.IsReadable.object
  simp [Value.IsReadable.string, Value.IsReadable.bool]

theorem count_newline_join {lines : List String} (h : ∀ line ∈ lines, '\n' ∉ line.toList)
    : (String.join (lines.map (· ++ "\n"))).toList.count '\n' = lines.length := by
  induction lines with
  | nil => rfl
  | cons line rest ih =>
    rcases List.forall_mem_cons.1 h with ⟨hline, hrest⟩
    rw [List.map_cons, String.join_cons, String.toList_append, String.toList_append,
      List.count_append, List.count_append, ih hrest, List.count_eq_zero_of_not_mem hline,
      List.length_cons]
    simp [Nat.add_comm]

/--
A list is printed whatever it holds, so that only the commands that draw can fail.
-/
theorem Outcome.print_list {α : Type} (f : α → Value) (row : List α)
    : print (Data.list (row.map (.value <| f ·))).indented
        =
      ⟨.success, (Value.array (row.map f)).indented ++ "\n"⟩ := by
  rw [Data.indented_of_toValue (Data.toValue_list_map f row)]
  rfl

theorem isReadable_themeSummary (room : Nat) {theme : Theme} (h : theme.dimensions.IsFinite)
    : (themeSummary theme).IsReadable (room + 1) := by
  unfold Dimensions.IsFinite at h
  simp only [List.forall_mem_cons] at h
  rcases h with ⟨hwidth, hheight, hgap, hspace, _⟩
  apply Value.IsReadable.object
  simp [Value.IsReadable.string, Value.IsReadable.float, hwidth, hheight, hgap, hspace]

/--
The listed themes are read back from what is printed, since there are only numbers with words in
themes that were loaded.
-/
theorem Command.run_themes {directory : Directory} {catalog : Catalog}
    (hload : Catalog.load directory = .ok catalog) (env : Environment)
    : ∃ text,
        Command.themes.run catalog env = ⟨.success, text ++ "\n"⟩ ∧
        Value.ofText? text = some (.array (catalog.list.map themeSummary)) := by
  refine ⟨_, Outcome.print_list themeSummary catalog.list, ?_⟩
  apply Value.ofText?_indented
  apply Value.IsReadable.array
  intro summary hsummary
  rcases List.mem_map.1 hsummary with ⟨theme, htheme, heq⟩
  rw [← heq]
  apply isReadable_themeSummary
  exact (Catalog.isSound_load hload).isFinite_of_mem_list htheme

/--
The instructions of a hand are read back from what is printed.
-/
theorem Command.run_parse (hand : String) (catalog : Catalog) (env : Environment)
    : ∃ text,
        (Command.parse hand).run catalog env = ⟨.success, text ++ "\n"⟩ ∧
        read? (Instruction.listOfTree? maxDepth) text = some (Hand.parse hand) := by
  refine ⟨_, Outcome.print_list Instruction.toValue (Hand.parse hand), ?_⟩
  rw [read?_write _ _ (by simp)]
  exact Instruction.listOfTree?_tree 125 (Hand.parse hand)

namespace RenderOptions

theorem renderAll_of_error {options : RenderOptions} {catalog : Catalog} {e : RenderError}
    (hstyle : catalog.style (options.theme.getD defaultThemeId) options.overrides = .error e)
    {hands : List String} (hhands : hands ≠ [])
    : options.renderAll catalog hands = ⟨.refused, errorLine e.message⟩ := by
  cases hands with
  | nil => contradiction
  | cons hand rest =>
    have hrender : catalog.render (options.request hand) = .error e := by
      apply Catalog.render_of_error
      exact hstyle
    unfold renderAll
    rw [hrender]

theorem line_eq (options : RenderOptions) (r : Rendering)
    : options.line r = .ok ((if options.json then r.toValue.compact else r.markup) ++ "\n") := by
  unfold line
  rw [r.compact_toData]
  split
  . rfl
  . rfl

theorem exists_renderAll {options : RenderOptions} {catalog : Catalog} {style : Style Float}
    (hstyle : catalog.style (options.theme.getD defaultThemeId) options.overrides = .ok style)
    (hands : List String)
    : ∃ drawn : List Rendering,
        drawn.map .ok = hands.map (catalog.render <| options.request ·) ∧
        options.renderAll catalog hands
          =
        ⟨.success, String.join (drawn.map fun r =>
          (if options.json then r.toValue.compact else r.markup) ++ "\n")⟩ := by
  induction hands with
  | nil => exact ⟨[], rfl, rfl⟩
  | cons hand rest ih =>
    rcases ih with ⟨drawn, hdrawn, hrest⟩
    have hrender : ∃ r, catalog.render (options.request hand) = .ok r := by
      apply Catalog.exists_render
      exact hstyle
    rcases hrender with ⟨r, hrender⟩
    refine ⟨r :: drawn, ?_, ?_⟩
    . rw [List.map_cons, List.map_cons, hrender, hdrawn]
    . unfold renderAll
      rw [hrender]
      dsimp only
      rw [line_eq, hrest, List.map_cons, String.join_cons]

theorem count_newline_compact (drawn : List Rendering)
    : (String.join (drawn.map (·.toValue.compact ++ "\n"))).toList.count '\n' = drawn.length := by
  have hlines : drawn.map (·.toValue.compact ++ "\n")
      =
    (drawn.map (·.toValue.compact)).map (· ++ "\n") := by
    rw [List.map_map]
    rfl
  rw [hlines, count_newline_join, List.length_map]
  intro line hline
  rcases List.mem_map.1 hline with ⟨r, _, heq⟩
  rw [← heq]
  apply newline_not_mem_compact

end RenderOptions

/--
Either all hands are drawn and written, one after the other, or nothing but an error is printed. In
neither of the two stages that can fail after the first line has the hand a part in whether they do.
-/
theorem Invocation.run_render {invocation : Invocation} {options : RenderOptions}
    {env : Environment} {catalog : Catalog} {hands : List String}
    (hcommand : invocation.command = .render options)
    (hload : Catalog.load (env.directory invocation.themesDirectory) = .ok catalog)
    (hhands : options.hands env = .ok hands)
    : (hands = [] →
        (invocation.run env).output = "" ∧
        (invocation.run env).status.exitCode = 0) ∧
      (∀ e,
        hands ≠ [] →
        catalog.style (options.theme.getD defaultThemeId) options.overrides = .error e →
        (invocation.run env).status.exitCode = 2 ∧
        ∃ text,
          (invocation.run env).output = text ++ "\n" ∧
          '\n' ∉ text.toList ∧
          Value.ofText? text
            =
          some (.object [("error", .string e.message), ("success", .bool false)])) ∧
      (∀ style,
        catalog.style (options.theme.getD defaultThemeId) options.overrides = .ok style →
        (invocation.run env).status.exitCode = 0 ∧
        (∃ drawn : List Rendering,
          drawn.map .ok = hands.map (catalog.render <| options.request ·) ∧
          (∀ r ∈ drawn, r.toData.compact = .ok r.toValue.compact) ∧
          (invocation.run env).output
            =
          String.join (drawn.map fun r =>
            (if options.json then r.toValue.compact else r.markup) ++ "\n")) ∧
        (options.json → (invocation.run env).output.toList.count '\n' = hands.length)) ∧
      ((invocation.run env).status ≠ .success →
        ∃ message, (invocation.run env).output = errorLine message) := by
  have hrun : invocation.run env = options.renderAll catalog hands := by
    unfold Invocation.run
    rw [hload, hcommand]
    unfold Command.run
    dsimp only
    rw [hhands]
  rw [hrun]
  refine ⟨?_, ?_, ?_, ?_⟩
  . intro hnil
    rw [hnil]
    exact ⟨rfl, rfl⟩
  . intro e hne hstyle
    rw [RenderOptions.renderAll_of_error hstyle hne]
    exact ⟨rfl, exists_errorLine e.message⟩
  . intro style hstyle
    rcases RenderOptions.exists_renderAll hstyle hands with ⟨drawn, hdrawn, heq⟩
    rw [heq]
    refine ⟨rfl, ⟨drawn, hdrawn, ?_, rfl⟩, ?_⟩
    . intro r _
      apply Rendering.compact_toData
    . intro hjson
      have hlength : drawn.length = hands.length := by
        simpa using congrArg List.length hdrawn
      rw [← hlength, hjson]
      exact RenderOptions.count_newline_compact drawn
  . intro hstatus
    cases hstyle : catalog.style (options.theme.getD defaultThemeId) options.overrides with
    | ok style =>
      rcases RenderOptions.exists_renderAll hstyle hands with ⟨_, _, heq⟩
      rw [heq] at hstatus
      contradiction
    | error e =>
      by_cases hne : hands = []
      . rw [hne] at hstatus
        contradiction
      . rw [RenderOptions.renderAll_of_error hstyle hne]
        exact ⟨_, rfl⟩

/--
The surroundings of a run without theme files.
-/
def Environment.ofInput (text : String) : Environment where
  directory := fun _ => .missing
  file := fun _ => .error .notFound
  standardInput := .ok text.toUTF8

theorem RenderOptions.hands_ofInput {options : RenderOptions} (hhand : options.hand = none)
    (hinput : options.input = some "-") (text : String)
    : options.hands (.ofInput text) = .ok (handsOfText text) := by
  unfold hands
  rw [hhand, hinput]
  dsimp only [Environment.ofInput]
  rw [FileContent.text_toUTF8]
  rfl

theorem Invocation.run_render_input
    : (Invocation.run { command := .render { input := some "-", json := true } }
        (.ofInput "1m\n\n 2'p \n")).output.toList.count '\n'
        =
      2 ∧
      (Invocation.run { command := .render { input := some "-", theme := some "day" } }
        (.ofInput "1m\n\n 2'p \n")).status.exitCode
        =
      2 ∧
      (Invocation.run { command := .render { input := some "-", theme := some "day" } }
        (.ofInput "\n \n")).output
        =
      "" := by
  have hhands : handsOfText "1m\n\n 2'p \n" = ["1m", "2'p"] := by
    decide
  have hnone : handsOfText "\n \n" = [] := by
    decide
  have hdefault : Catalog.builtin.style defaultThemeId none = .ok (Theme.builtin.style none) := by
    rw [Catalog.style_eq, Catalog.get?_builtin]
    rfl
  have hday : Catalog.builtin.style "day" none = .error (.themeNotFound "day") := by
    rw [Catalog.style_eq, Catalog.get?_builtin]
    rfl
  refine ⟨?_, ?_, ?_⟩
  . rcases @run_render { command := .render { input := some "-", json := true } } _ (.ofInput _) _ _
      rfl rfl (RenderOptions.hands_ofInput rfl rfl _) with ⟨_, _, hdrawn, _⟩
    rw [(hdrawn _ hdefault).2.2 rfl, hhands]
    rfl
  . rcases @run_render { command := .render { input := some "-", theme := some "day" } } _
      (.ofInput _) _ _ rfl rfl (RenderOptions.hands_ofInput rfl rfl _) with ⟨_, herror, _⟩
    exact (herror _ (by simp [hhands]) hday).1
  . rcases @run_render { command := .render { input := some "-", theme := some "day" } } _
      (.ofInput _) _ _ rfl rfl (RenderOptions.hands_ofInput rfl rfl _) with ⟨hempty, _, _⟩
    exact (hempty hnone).1

end Mahjong.CommandLine
