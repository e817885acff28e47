import Mahjong.Proofs.Text.Attribute
import Mahjong.Text.Element

/-!
This module contains a reader of markup that consists of tags only. It goes over the characters once
and knows nothing of how the markup was made: a quote ends a value, wherever it comes from.
-/

namespace Mahjong.Text

/--
A tag with its attributes in order, and their values as they are meant.
-/
inductive Tag where
  | opening (name : String) (attributes : List (String × String))
  | empty (name : String) (attributes : List (String × String))
  | closing (name : String)
deriving DecidableEq

namespace Tag

structure Head where
  name : String
  attributes : List (String × String) := []

def Head.add (head : Head) (key : String) (value : String) : Head :=
  { head with attributes := head.attributes ++ [(key, value)] }

/--
What the characters read last belong to. Names and values that have begun are held with the last
character first.
-/
inductive Mode where
  | outside
  | start
  | name (before : List Char)
  | closing (before : List Char)
  | blank (head : Head)
  | attribute (head : Head) (before : List Char)
  | equals (head : Head) (key : String)
  | value (head : Head) (key : String) (before : List Char)
  | afterValue (head : Head)
  | slash (head : Head)

def text (before : List Char) : String :=
  String.ofList before.reverse

/--
Read one character. It may complete a tag.
-/
def Mode.step? (mode : Mode) (c : Char) : Option (Mode × List Tag) :=
  match mode with
  | .outside => if c = '<' then some (.start, []) else none
  | .start =>
    if c = '/' then some (.closing [], [])
    else if c.isAlpha then some (.name [c], [])
    else none
  | .name before =>
    if c = ' ' then some (.blank ⟨text before, []⟩, [])
    else if c = '>' then some (.outside, [.opening (text before) []])
    else if c.isAlpha then some (.name (c :: before), [])
    else none
  | .closing before =>
    if c = '>' then some (.outside, [.closing (text before)])
    else if c.isAlpha then some (.closing (c :: before), [])
    else none
  | .blank head =>
    if c = '/' then some (.slash head, [])
    else if c.isAlpha then some (.attribute head [c], [])
    else none
  | .attribute head before =>
    if c = '=' then some (.equals head (text before), [])
    else if c.isAlpha then some (.attribute head (c :: before), [])
    else none
  | .equals head key => if c = '"' then some (.value head key [], []) else none
  | .value head key before =>
    if c = '"' then
      some (.afterValue (head.add key (String.ofList (decodeEntities before.reverse))), [])
    else if c = '<' ∨ c = '>' then none
    else some (.value head key (c :: before), [])
  | .afterValue head =>
    if c = ' ' then some (.blank head, [])
    else if c = '>' then some (.outside, [.opening head.name head.attributes])
    else none
  | .slash head =>
    if c = '>' then some (.outside, [.empty head.name head.attributes]) else none

/--
The tags that are completed by a row of characters, or `none` if they are not markup.
-/
def scan? (mode : Mode) : List Char → Option (List Tag)
  | [] =>
    match mode with
    | .outside => some []
    | _ => none
  | c :: rest => do
    let (mode, tags) ← mode.step? c
    return tags ++ (← scan? mode rest)

end Tag

def readTags (markup : String) : Option (List Tag) :=
  Tag.scan? .outside markup.toList

namespace Tag

def write : Tag → String
  | .opening name attributes => openTag name attributes
  | .empty name attributes => emptyTag name attributes
  | .closing name => closeTag name

def IsName (name : String) : Prop :=
  name.toList ≠ [] ∧ ∀ c ∈ name.toList, c.isAlpha

theorem isName_of_all {name : String} (hne : name.toList ≠ [])
    (h : name.toList.all Char.isAlpha)
    : IsName name := by
  exact ⟨hne, List.all_eq_true.1 h⟩

/--
Whether a tag and its attributes are named by letters. Nothing is asked of the values.
-/
def WellNamed : Tag → Prop
  | .opening name attributes => IsName name ∧ ∀ item ∈ attributes, IsName item.1
  | .empty name attributes => IsName name ∧ ∀ item ∈ attributes, IsName item.1
  | .closing name => IsName name

theorem scan?_cons_nil {mode : Mode} (next : Mode) {c : Char} (h : mode.step? c = some (next, []))
    (rest : List Char)
    : scan? mode (c :: rest) = scan? next rest := by
  rw [scan?, h]
  simp

theorem scan?_cons_tag {mode next : Mode} {c : Char} {tag : Tag}
    (h : mode.step? c = some (next, [tag])) (rest : List Char)
    : scan? mode (c :: rest) = (scan? next rest).map (tag :: ·) := by
  rw [scan?, h, Option.map_eq_bind]
  rfl

theorem scan?_collect (mode : List Char → Mode) (good : Char → Prop)
    (hstep : ∀ before c, good c → (mode before).step? c = some (mode (c :: before), []))
    (before chars : List Char) (hchars : ∀ c ∈ chars, good c) (rest : List Char)
    : scan? (mode before) (chars ++ rest) = scan? (mode (chars.reverse ++ before)) rest := by
  induction chars generalizing before with
  | nil => rfl
  | cons c chars ih =>
    have hc : good c := by
      apply hchars
      simp
    have hrest : ∀ d ∈ chars, good d := by
      intro d hd
      apply hchars
      simp [hd]
    rw [List.cons_append, scan?_cons_nil _ (hstep before c hc), ih (c :: before) hrest]
    simp

theorem not_mark_of_isAlpha {c : Char} (h : c.isAlpha)
    : c ≠ ' ' ∧ c ≠ '/' ∧ c ≠ '>' ∧ c ≠ '=' := by
  refine ⟨?_, ?_, ?_, ?_⟩
  all_goals
    intro hc
    subst hc
    revert h
    decide

theorem IsName.exists_cons {name : String} (h : IsName name)
    : ∃ c chars, name.toList = c :: chars ∧ c.isAlpha ∧ ∀ d ∈ chars, d.isAlpha := by
  rcases h with ⟨hne, hletters⟩
  rcases List.exists_cons_of_ne_nil hne with ⟨c, chars, hchars⟩
  refine ⟨c, chars, hchars, ?_, ?_⟩
  . apply hletters
    simp [hchars]
  . intro d hd
    apply hletters
    simp [hchars, hd]

theorem text_of_toList {name : String} {c : Char} {chars : List Char}
    (h : name.toList = c :: chars)
    : text (chars.reverse ++ [c]) = name := by
  apply String.toList_inj.1
  simp [text, h]

theorem scan?_start {name : String} (hname : IsName name) (rest : List Char)
    : ∃ before, text before = name ∧
        scan? .start (name.toList ++ rest) = scan? (.name before) rest := by
  rcases hname.exists_cons with ⟨c, chars, hname, hc, hchars⟩
  have hmark := not_mark_of_isAlpha hc
  refine ⟨chars.reverse ++ [c], text_of_toList hname, ?_⟩
  rw [hname, List.cons_append, scan?_cons_nil (.name [c])]
  . apply scan?_collect .name (·.isAlpha)
    . intro before d hd
      have := not_mark_of_isAlpha hd
      simp_all [Mode.step?]
    . exact hchars
  . simp [Mode.step?, hmark, hc]

theorem scan?_closing {name : String} (hname : IsName name) (rest : List Char)
    : scan? (.closing []) (name.toList ++ '>' :: rest)
        =
      (scan? .outside rest).map (.closing name :: ·) := by
  rw [scan?_collect .closing (·.isAlpha)]
  . apply scan?_cons_tag
    simp [Mode.step?, text]
  . intro before d hd
    have := not_mark_of_isAlpha hd
    simp_all [Mode.step?]
  . exact hname.2

theorem scan?_key (head : Head) {key : String} (hkey : IsName key) (rest : List Char)
    : scan? (.blank head) (key.toList ++ '=' :: rest) = scan? (.equals head key) rest := by
  rcases hkey.exists_cons with ⟨c, chars, hkey, hc, hchars⟩
  have hmark := not_mark_of_isAlpha hc
  rw [hkey, List.cons_append, scan?_cons_nil (.attribute head [c])]
  . rw [scan?_collect (.attribute head) (·.isAlpha)]
    . apply scan?_cons_nil
      simp [Mode.step?, text_of_toList hkey]
    . intro before d hd
      have := not_mark_of_isAlpha hd
      simp_all [Mode.step?]
    . exact hchars
  . simp [Mode.step?, hmark, hc]

theorem scan?_value (head : Head) (key value : String) (rest : List Char)
    : scan? (.value head key []) ((escapeAttribute value).toList ++ '"' :: rest)
        =
      scan? (.afterValue (head.add key value)) rest := by
  -- The quotes inside the value are escaped, so that the first quote is its end.
  rw [scan?_collect (.value head key) (fun c => c ≠ '"' ∧ c ≠ '<' ∧ c ≠ '>')]
  . apply scan?_cons_nil
    simp [Mode.step?, escapeAttribute, decodeEntities_escape]
  . intro before c hc
    simp [Mode.step?, hc]
  . intro c hc
    apply @not_special_of_mem_escape value.toList
    simpa [escapeAttribute] using hc

theorem scan?_attributes (head : Head) {items : List (String × String)}
    (hitems : ∀ item ∈ items, IsName item.1) (rest : List Char)
    : scan? (.afterValue head) ((attributes items).toList ++ rest)
        =
      scan? (.afterValue { head with attributes := head.attributes ++ items }) rest := by
  induction items generalizing head with
  | nil => simp [attributes]
  | cons item items ih =>
    rcases item with ⟨key, value⟩
    have hkey : IsName key := by
      apply hitems ⟨key, value⟩
      simp
    have hrest : ∀ item ∈ items, IsName item.1 := by
      intro item hitem
      apply hitems
      simp [hitem]
    have hblank : scan? (.afterValue head) ((attributes ((key, value) :: items)).toList ++ rest)
        =
      scan? (.blank head)
        (key.toList ++ '=' :: '"' ::
          ((escapeAttribute value).toList ++ '"' :: ((attributes items).toList ++ rest))) := by
      simp only [attributes, List.map_cons, String.join_cons, String.toList_append,
        List.append_assoc]
      apply scan?_cons_nil
      rfl
    rw [hblank, scan?_key head hkey, scan?_cons_nil (.value head key []), scan?_value,
      ih _ hrest]
    . simp [Head.add]
    . rfl

theorem scan?_name_end (before : List Char) {c : Char} (hc : c = ' ' ∨ c = '>') (rest : List Char)
    : scan? (.name before) (c :: rest) = scan? (.afterValue ⟨text before, []⟩) (c :: rest) := by
  rcases hc with hc | hc
  . subst hc
    rfl
  . subst hc
    rfl

theorem scan?_head {name : String} {items : List (String × String)} (hname : IsName name)
    (hitems : ∀ item ∈ items, IsName item.1) {c : Char} (hc : c = ' ' ∨ c = '>')
    (rest : List Char)
    : scan? .start (name.toList ++ (attributes items).toList ++ c :: rest)
        =
      scan? (.afterValue ⟨name, items⟩) (c :: rest) := by
  rcases scan?_start hname ((attributes items).toList ++ c :: rest) with ⟨before, hbefore, hscan⟩
  rw [List.append_assoc, hscan]
  have hend : scan? (.name before) ((attributes items).toList ++ c :: rest)
      =
    scan? (.afterValue ⟨name, []⟩) ((attributes items).toList ++ c :: rest) := by
    cases items with
    | nil =>
      rw [← hbefore]
      exact scan?_name_end before hc rest
    | cons item items =>
      rw [← hbefore]
      simp only [attributes, List.map_cons, String.join_cons, String.toList_append,
        List.append_assoc]
      exact scan?_name_end before (.inl rfl) _
  rw [hend, scan?_attributes _ hitems]
  rfl

theorem scan?_write {tag : Tag} (htag : tag.WellNamed) (rest : List Char)
    : scan? .outside (tag.write.toList ++ rest) = (scan? .outside rest).map (tag :: ·) := by
  cases tag with
  | opening name items =>
    rcases htag with ⟨hname, hitems⟩
    have hopen : scan? .outside ((write (.opening name items)).toList ++ rest)
        =
      scan? .start (name.toList ++ (attributes items).toList ++ '>' :: rest) := by
      simp only [write, openTag, String.toList_append, List.append_assoc]
      apply scan?_cons_nil
      rfl
    rw [hopen, scan?_head hname hitems (by simp)]
    apply scan?_cons_tag
    rfl
  | empty name items =>
    rcases htag with ⟨hname, hitems⟩
    have hopen : scan? .outside ((write (.empty name items)).toList ++ rest)
        =
      scan? .start (name.toList ++ (attributes items).toList ++ ' ' :: '/' :: '>' :: rest) := by
      simp only [write, emptyTag, String.toList_append, List.append_assoc]
      apply scan?_cons_nil
      rfl
    rw [hopen, scan?_head hname hitems (by simp), scan?_cons_nil (.blank ⟨name, items⟩),
      scan?_cons_nil (.slash ⟨name, items⟩)]
    . apply scan?_cons_tag
      rfl
    . rfl
    . rfl
  | closing name =>
    have hopen : scan? .outside ((write (.closing name)).toList ++ rest)
        =
      scan? (.closing []) (name.toList ++ '>' :: rest) := by
      simp only [write, closeTag, String.toList_append, List.append_assoc]
      apply (scan?_cons_nil .start rfl _).trans
      apply scan?_cons_nil
      rfl
    rw [hopen, scan?_closing htag]

end Tag

/--
Reading undoes writing, whatever the values of the attributes are.
-/
theorem readTags_join {tags : List Tag} (htags : ∀ tag ∈ tags, tag.WellNamed)
    : readTags (String.join (tags.map Tag.write)) = some tags := by
  unfold readTags
  induction tags with
  | nil => rfl
  | cons tag tags ih =>
    have htag : tag.WellNamed := by
      apply htags
      simp
    have hrest : ∀ tag ∈ tags, tag.WellNamed := by
      intro tag htag
      apply htags
      simp [htag]
    rw [List.map_cons, String.join_cons, String.toList_append, Tag.scan?_write htag, ih hrest]
    rfl

end Mahjong.Text
