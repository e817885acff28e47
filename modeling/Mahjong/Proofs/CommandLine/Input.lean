import Mahjong.Proofs.CommandLine.Batch
import Mahjong.Proofs.Hand.Stray

/-!
This module contains which hands stand in an input: one on each line that is not blank. How the
lines end does not count, nor do blanks at the ends of a line, for they draw nothing.
-/

namespace Mahjong.CommandLine

/--
The lines of a text, where a line ends at a line feed only.
-/
def rawLines (text : String) : List String :=
  (text.toList.splitOn '\n').map String.ofList

def dropReturn (line : List Char) : List Char :=
  if line.getLast? = some '\r' then line.dropLast else line

/--
The lines of a text, where a line feed may have a carriage return before it and the last line needs
no end.
-/
def lines (text : List Char) : List (List Char) :=
  let parts := Text.splitAt '\n' text
  parts.dropLast.map dropReturn ++ parts.getLast?.toList.filter (· ≠ [])

/--
The text with hands on lines of their own.
-/
def writeHands (hands : List String) : String :=
  String.join (hands.map (· ++ "\n"))

/--
A text with a carriage return before each line feed.
-/
def addReturns (text : List Char) : List Char :=
  text.flatMap fun c => if c = '\n' then ['\r', '\n'] else [c]

/--
Whether two texts differ only in how lines end: one of them has carriage returns in addition, or an
end behind its last line.
-/
def DifferInLineEnds (text other : String) : Prop :=
  other = String.ofList (addReturns text.toList) ∨
  ∃ ending ∈ ["\n", "\r\n"], other = text ++ ending ∨ text = other ++ ending

def RenderOptions.Reads (options : RenderOptions) (env : Environment) (text : String) : Prop :=
  options.hand = none ∧
  ∃ input,
    options.input = some input ∧
    (if input = "-" then env.standardInput else env.file input).text = .ok text

theorem RenderOptions.hands_of_reads {options : RenderOptions} {env : Environment} {text : String}
    (h : options.Reads env text)
    : options.hands env = .ok (handsOfText text) := by
  rcases h with ⟨hhand, input, hinput, htext⟩
  unfold hands
  rw [hhand, hinput]
  split at htext
  . next heq =>
    rw [heq, htext]
    rfl
  . next hne => simp only [htext]

/--
The hands of an input as rows of characters.
-/
def handRows (text : List Char) : List (List Char) :=
  ((Text.splitAt '\n' text).map Text.trimBlanks).filter (· ≠ [])

theorem map_handRows {text : List Char} {rows : List (List Char)}
    (h : handRows text = (rows.map Text.trimBlanks).filter (· ≠ []))
    : (handRows text).map String.ofList
        =
      ((rows.map String.ofList).map Text.trim).filter (· ≠ "") := by
  have hempty : (fun hand : String => decide (hand ≠ "")) ∘ String.ofList
      =
    fun row => decide (row ≠ []) := by
    funext row
    rw [Function.comp, decide_eq_decide]
    simp
  have htrim : Text.trim ∘ String.ofList = String.ofList ∘ Text.trimBlanks := by
    funext row
    simp [Text.trim]
  rw [h, List.map_map, htrim, ← List.map_map]
  -- What was trimmed no longer matters, only that it is filtered as rows or as texts.
  generalize rows.map Text.trimBlanks = parts
  rw [List.filter_map, hempty]

theorem handsOfText_eq (text : String)
    : handsOfText text = (handRows text.toList).map String.ofList := by
  have hempty : (fun hand : String => !hand.isEmpty) = fun hand => decide (hand ≠ "") := by
    funext hand
    rw [Bool.eq_iff_iff]
    simp
  rw [map_handRows rfl]
  unfold handsOfText
  rw [hempty, List.map_map]
  congr 2
  funext line
  simp [Text.trim]

theorem handRows_append_cons (text rest : List Char)
    : handRows (text ++ '\n' :: rest) = handRows text ++ handRows rest := by
  unfold handRows
  rw [Text.splitAt_append_cons, List.map_append, List.filter_append]

theorem handRows_of_not_mem {line : List Char} (h : '\n' ∉ line)
    : handRows line = [Text.trimBlanks line].filter (· ≠ []) := by
  unfold handRows
  rw [Text.splitAt_of_not_mem h]
  rfl

theorem isBlank_return : ∀ c ∈ ['\r'], Text.isBlank c := by
  rw [List.forall_mem_singleton]
  rfl

/--
A carriage return at the end of a line is a blank like any other.
-/
theorem handRows_append_return {line : List Char} (h : '\n' ∉ line)
    : handRows (line ++ ['\r']) = handRows line := by
  have hreturn : '\n' ∉ line ++ ['\r'] := by
    simp [h]
  rw [handRows_of_not_mem h, handRows_of_not_mem hreturn,
    Text.trimBlanks_append_blanks line isBlank_return]

theorem addReturns_of_not_mem {line : List Char} (h : '\n' ∉ line) : addReturns line = line := by
  induction line with
  | nil => rfl
  | cons c rest ih =>
    rcases List.ne_and_not_mem_of_not_mem_cons h with ⟨hc, hrest⟩
    unfold addReturns at ih ⊢
    rw [List.flatMap_cons, if_neg (Ne.symm hc), ih hrest]
    rfl

theorem addReturns_append_cons {line : List Char} (h : '\n' ∉ line) (rest : List Char)
    : addReturns (line ++ '\n' :: rest) = line ++ ['\r'] ++ '\n' :: addReturns rest := by
  have hline := addReturns_of_not_mem h
  unfold addReturns at hline ⊢
  rw [List.flatMap_append, hline, List.flatMap_cons]
  simp

theorem handRows_addReturns (text : List Char) : handRows (addReturns text) = handRows text := by
  induction text using Text.parts_induction with
  | last line h => rw [addReturns_of_not_mem h]
  | cons line rest h ih =>
    rw [addReturns_append_cons h, handRows_append_cons, handRows_append_cons,
      handRows_append_return h, ih]

theorem handRows_append_ending (text : List Char)
    : handRows (text ++ ['\n']) = handRows text ∧
      handRows (text ++ ['\r', '\n']) = handRows text := by
  have hnil : handRows [] = [] := by
    rfl
  constructor
  . rw [handRows_append_cons, hnil, List.append_nil]
  . -- The carriage return falls to the last line, wherever that begins.
    induction text using Text.parts_induction with
    | last line h =>
      rw [List.append_cons, handRows_append_cons, handRows_append_return h, hnil, List.append_nil]
    | cons line rest h ih =>
      rw [List.append_assoc, List.cons_append, handRows_append_cons, ih, handRows_append_cons]

theorem trimBlanks_dropReturn (line : List Char)
    : Text.trimBlanks (dropReturn line) = Text.trimBlanks line := by
  unfold dropReturn
  split
  . next h =>
    rcases List.getLast?_eq_some_iff.1 h with ⟨start, heq⟩
    rw [heq, List.dropLast_concat, Text.trimBlanks_append_blanks start isBlank_return]
  . rfl

theorem lines_of_not_mem {line : List Char} (h : '\n' ∉ line)
    : lines line = [line].filter (· ≠ []) := by
  unfold lines
  rw [Text.splitAt_of_not_mem h]
  rfl

theorem lines_append_cons {line : List Char} (h : '\n' ∉ line) (rest : List Char)
    : lines (line ++ '\n' :: rest) = dropReturn line :: lines rest := by
  have hne := Text.splitAt_ne_nil '\n' rest
  unfold lines
  rw [Text.splitAt_append_cons, Text.splitAt_of_not_mem h, List.singleton_append]
  cases hparts : Text.splitAt '\n' rest with
  | nil => contradiction
  | cons part parts => rfl

/--
It comes to the same to leave the carriage return on a line and to count what is behind the last
line feed as a line.
-/
theorem handRows_eq_lines (text : List Char)
    : handRows text = ((lines text).map Text.trimBlanks).filter (· ≠ []) := by
  induction text using Text.parts_induction with
  | last line h =>
    rw [handRows_of_not_mem h, lines_of_not_mem h]
    cases line <;> rfl
  | cons line rest h ih =>
    rw [handRows_append_cons, handRows_of_not_mem h, lines_append_cons h, List.map_cons,
      trimBlanks_dropReturn, ih, ← List.filter_append]
    rfl

theorem mem_handRows {text row : List Char} (h : row ∈ handRows text)
    : row ≠ [] ∧ '\n' ∉ row ∧ Text.IsTrimmed row := by
  rcases List.mem_filter.1 h with ⟨hmem, hne⟩
  rcases List.mem_map.1 hmem with ⟨part, hpart, heq⟩
  refine ⟨by simpa using hne, ?_, ?_⟩
  . intro hfeed
    rcases Text.exists_trimBlanks part with ⟨before, after, hpartEq, _⟩
    have hfeed : '\n' ∈ part := by
      rw [hpartEq, heq]
      simp [hfeed]
    exact (Text.mem_part hpart hfeed).2 rfl
  . rw [← heq]
    apply Text.isTrimmed_trimBlanks

theorem handRows_join {rows : List (List Char)}
    (h : ∀ row ∈ rows, row ≠ [] ∧ '\n' ∉ row ∧ Text.IsTrimmed row)
    : handRows (rows.flatMap (· ++ ['\n'])) = rows := by
  induction rows with
  | nil => rfl
  | cons row rest ih =>
    rcases List.forall_mem_cons.1 h with ⟨⟨hne, hfeed, htrimmed⟩, hrest⟩
    rw [List.flatMap_cons, List.append_assoc, List.singleton_append, handRows_append_cons,
      handRows_of_not_mem hfeed, Text.trimBlanks_of_isTrimmed htrimmed, ih hrest]
    simp [hne]

theorem handsOfText_of_differInLineEnds {text other : String} (h : DifferInLineEnds text other)
    : handsOfText other = handsOfText text := by
  have hending (text ending : String) (hmem : ending ∈ ["\n", "\r\n"])
      : handsOfText (text ++ ending) = handsOfText text := by
    rcases handRows_append_ending text.toList with ⟨hfeed, hreturn⟩
    rw [handsOfText_eq, handsOfText_eq, String.toList_append]
    simp only [List.mem_cons, List.not_mem_nil, or_false] at hmem
    rcases hmem with heq | heq
    . rw [heq]
      exact congrArg (·.map String.ofList) hfeed
    . rw [heq]
      exact congrArg (·.map String.ofList) hreturn
  rcases h with heq | ⟨ending, hmem, heq | heq⟩
  . rw [heq, handsOfText_eq, handsOfText_eq, String.toList_ofList, handRows_addReturns]
  . rw [heq, hending text ending hmem]
  . rw [heq, hending other ending hmem]

theorem handsOfText_writeHands (text : String)
    : handsOfText (writeHands (handsOfText text)) = handsOfText text := by
  have hjoin : (writeHands (handsOfText text)).toList
      =
    (handRows text.toList).flatMap (· ++ ['\n']) := by
    rw [handsOfText_eq, writeHands, String.toList_join, List.map_map, List.flatMap_map]
    simp
  rw [handsOfText_eq, hjoin, handRows_join, handsOfText_eq]
  intro row hrow
  exact mem_handRows hrow

/--
The hands of an input are its lines without the blanks around them. They are the same however the
lines end, also when they are written down again, and they draw what the lines draw.
-/
theorem handsOfText_of_lines (text : String)
    : let hands := handsOfText text
      (∀ (options : RenderOptions) env, options.Reads env text → options.hands env = .ok hands) ∧
      hands = ((rawLines text).map Text.trim).filter (· ≠ "") ∧
      hands = (((lines text.toList).map String.ofList).map Text.trim).filter (· ≠ "") ∧
      (∀ hand ∈ hands, hand ≠ "" ∧ '\n' ∉ hand.toList ∧ Text.IsTrimmed hand.toList) ∧
      handsOfText (writeHands hands) = hands ∧
      (∀ other, DifferInLineEnds text other → handsOfText other = hands) ∧
      ∀ line ∈ rawLines text,
        (∃ before after,
          line.toList = before ++ (Text.trim line).toList ++ after ∧
          (∀ c ∈ before, Text.isBlank c) ∧
          ∀ c ∈ after, Text.isBlank c) ∧
        Hand.parse (Text.trim line) = Hand.parse line ∧
        (Text.trim line = "" → Hand.parse line = []) := by
  intro hands
  have hrows : hands = (handRows text.toList).map String.ofList := handsOfText_eq text
  refine ⟨?_, ?_, ?_, ?_, ?_, ?_, ?_⟩
  . intro options env hreads
    exact RenderOptions.hands_of_reads hreads
  . rw [hrows, rawLines, ← Text.splitAt_eq_splitOn]
    exact map_handRows rfl
  . rw [hrows]
    exact map_handRows (handRows_eq_lines text.toList)
  . intro hand hhand
    rw [hrows] at hhand
    rcases List.mem_map.1 hhand with ⟨row, hrow, heq⟩
    rcases mem_handRows hrow with ⟨hne, hfeed, htrimmed⟩
    rw [← heq, String.toList_ofList]
    refine ⟨?_, hfeed, htrimmed⟩
    simpa using hne
  . apply handsOfText_writeHands
  . intro other hother
    exact handsOfText_of_differInLineEnds hother
  . intro line _
    refine ⟨?_, Hand.parse_trim line, ?_⟩
    . rw [Text.trim, String.toList_ofList]
      apply Text.exists_trimBlanks
    . intro hempty
      rw [← Hand.parse_trim, hempty]
      rfl

theorem handsOfText_of_lines_input
    : let text := "1m\t\r\n\u3000\n 2'p -\r"
      RenderOptions.hands { input := some "-" } (.ofInput text) = .ok ["1m", "2'p -"] ∧
      Text.IsTrimmed "2'p -".toList ∧
      handsOfText (String.ofList (addReturns text.toList)) = ["1m", "2'p -"] ∧
      handsOfText (text ++ "\r\n") = ["1m", "2'p -"] ∧
      Hand.parse "2'p -" = Hand.parse " 2'p -\r" ∧
      Hand.parse "\u3000" = [] := by
  intro text
  have hhands : handsOfText text = ["1m", "2'p -"] := by
    decide
  have hreads : RenderOptions.Reads { input := some "-" } (.ofInput text) text := by
    refine ⟨rfl, "-", rfl, ?_⟩
    apply FileContent.text_toUTF8
  rcases handsOfText_of_lines text with ⟨hread, _, _, htrimmed, _, hendings, hlines⟩
  rw [hhands] at hread htrimmed hendings
  refine ⟨hread _ _ hreads, ?_, hendings _ (.inl rfl), ?_, ?_, ?_⟩
  . exact (htrimmed "2'p -" (by decide)).2.2
  . apply hendings
    exact .inr ⟨"\r\n", by decide, .inl rfl⟩
  . exact (hlines " 2'p -\r" (by decide)).2.1
  . apply (hlines "\u3000" (by decide)).2.2
    decide

end Mahjong.CommandLine
