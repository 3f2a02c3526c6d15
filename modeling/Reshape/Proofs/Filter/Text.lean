import Reshape.Proofs.Filter.BuiltIn
import Reshape.Proofs.Text.Split

namespace Reshape

theorem Text.nil_intercalate (parts : List (List Char)) : [].intercalate parts = parts.flatten := by
  induction parts with
  | nil => rfl
  | cons part rest ih =>
      cases rest with
      | nil => simp
      | cons next rest => simp [List.intercalate_cons_cons, ih]

theorem Text.join_characters (text : String) : join "" (split "" text) = text := by
  apply String.toList_inj.mp
  have parts : (split "" text).map String.toList =
      [] :: (text.toList.map fun character => [character]) ++ [[]] := by
    simp [split, Function.comp_def]
  rw [join, String.toList_intercalate, parts, String.toList_empty, nil_intercalate]
  simp [← List.flatMap_def]

theorem Text.join_split_text (separator text : String) :
    join separator (split separator text) = text := by
  by_cases visible : separator = ""
  · rw [visible, join_characters]
  · exact join_split visible text

namespace Filter

variable {arguments : List Value} {separator : String}

/-- How arguments name a separator. The comma is also meant by null and by no argument. -/
inductive NamesSeparator : List Value → String → Prop
  | absent : NamesSeparator [] ","
  | null (others : List Value) : NamesSeparator (.null :: others) ","
  | given (separator : String) (others : List Value) :
      NamesSeparator (.string separator :: others) separator

theorem plainTexts_strings [Record.Display] (texts : List String) :
    plainTexts (texts.map .string) = .ok texts := by
  induction texts with
  | nil => rfl
  | cons text rest ih =>
      rw [List.map_cons, plainTexts, ih]
      rfl

theorem join_strings [Record.Display] (names : NamesSeparator arguments separator)
    (context : FilterContext)
    (texts : List String) :
    join { context with source := .list (texts.map .string) } arguments =
      pure (.string (Text.join separator texts)) := by
  have argument : stringArgument arguments 0 "," = .ok separator := by cases names <;> rfl
  unfold join ofPure
  simp only [onList, argument, plainTexts_strings, bind, Except.bind]
  rfl

theorem split_empty (names : NamesSeparator arguments separator) (context : FilterContext) :
    split { context with source := .string "" } arguments = pure (.list []) := by
  cases names <;> rfl

theorem split_string (names : NamesSeparator arguments separator) (context : FilterContext)
    {text : String} (filled : text ≠ "") :
    split { context with source := .string text } arguments =
      pure (.list ((Text.split separator text).map .string)) := by
  have argument : stringArgument arguments 0 "," = .ok separator := by cases names <;> rfl
  have visible : text.isEmpty = false := by simpa using filled
  unfold split ofPure
  simp only [argument, visible, bind, Except.bind]
  rfl

/-- Splitting and joining are inverse: a text is joined from its parts again, and a list of strings
that do not hold the character which separates them is split from its join again, unless it is the
list of the empty string alone. -/
theorem split_join_inverse [Record.Display] (context : FilterContext)
    (arguments others : List Value)
    (separator : String) (splits : NamesSeparator arguments separator)
    (joins : NamesSeparator others separator) :
    (∀ text : String, ∃ parts : List String,
      split { context with source := .string text } arguments =
        pure (.list (parts.map .string)) ∧
      join { context with source := .list (parts.map .string) } others = pure (.string text)) ∧
    ∀ (character : Char) (parts : List String), separator.toList = [character] →
      (∀ part ∈ parts, character ∉ part.toList) → parts ≠ [""] → ∃ text : String,
      join { context with source := .list (parts.map .string) } others = pure (.string text) ∧
      split { context with source := .string text } arguments =
        pure (.list (parts.map .string)) := by
  constructor
  · intro text
    by_cases filled : text = ""
    · exact ⟨[], filled ▸ split_empty splits context, filled ▸ join_strings joins context []⟩
    · refine ⟨Text.split separator text, split_string splits context filled, ?_⟩
      rw [join_strings joins, Text.join_split_text]
  · intro character parts single absent several
    refine ⟨Text.join separator parts, join_strings joins context parts, ?_⟩
    by_cases nonempty : parts = []
    · rw [nonempty]
      exact split_empty splits context
    · have filled := Text.join_ne_empty single nonempty absent several
      rw [split_string splits context filled, Text.split_join single nonempty absent]

/-- A separator that overlaps itself in a text, and the comma that two lists of arguments name in
different ways. -/
theorem split_join_inverse_overlapping :
    let text (content : String) := { FilterContext.bare with source := .string content }
    let list (parts : List String) := { FilterContext.bare with source := .list (parts.map .string) }
    NamesSeparator [.string "aa"] "aa" ∧ NamesSeparator [.null] "," ∧ NamesSeparator [] "," ∧
      (∃ parts, split (text "aaaba") [.string "aa"] = pure (.list (parts.map .string)) ∧
        join (list parts) [.string "aa"] = pure (.string "aaaba")) ∧
      ∃ joined, join (list ["", "b", ""]) [] = pure (.string joined) ∧
        split (text joined) [.null] = pure (.list (["", "b", ""].map .string)) := by
  intro text list
  have overlapping : NamesSeparator [.string "aa"] "aa" := .given "aa" []
  have comma : NamesSeparator [.null] "," := .null []
  exact ⟨overlapping, comma, .absent,
    (split_join_inverse .bare _ _ _ overlapping overlapping).1 "aaaba",
    (split_join_inverse .bare _ _ _ comma .absent).2 ',' ["", "b", ""] rfl (by decide) (by decide)⟩

end Filter

end Reshape
