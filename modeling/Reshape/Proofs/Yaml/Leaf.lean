import Reshape.Proofs.Yaml.Block
import Reshape.Proofs.Yaml.Numbers

namespace Reshape.Yaml

section Words

variable {text left right leftRest rightRest : List Char}

/-- Whether a colon stands before a blank or at the end. -/
def hasColon : List Char → Bool
  | [] => false
  | character :: rest => (character == ':' && blankFollows rest) || hasColon rest

/-- A text without quotes on one line, which goes on up to the end of the line or to a colon. -/
structure Word (text : List Char) : Prop where
  unbroken : ∀ character ∈ text, isBreak character = false
  noColon : hasColon text = false
  starts : ∃ first rest, text = first :: rest ∧ first ≠ ' ' ∧ first ∉ ['"', '\'', '|'] ∧
    (first ∈ ['-', '?'] → blankFollows rest = false)

/-- The end of a line, or a colon before a blank. -/
inductive EndsWord : List Char → Prop
  | line (rest : List Char) : EndsWord ('\n' :: rest)
  | colon {rest : List Char} (blank : blankFollows rest) : EndsWord (':' :: rest)

theorem EndsWord.head?_ne_quote {rest : List Char} (ends : EndsWord rest) :
    rest.head? ≠ some '\'' := by
  cases ends <;> simp

theorem blankFollows_append {rest tail : List Char} (blank : blankFollows (rest ++ tail)) :
    blankFollows rest := by
  cases rest with
  | nil => rfl
  | cons => exact blank

theorem EndsWord.ne_append (ends : EndsWord leftRest) {first : Char} {others : List Char}
    (unbroken : ∀ character ∈ first :: others, isBreak character = false)
    (noColon : hasColon (first :: others) = false) :
    leftRest ≠ first :: others ++ rightRest := by
  cases ends with
  | line rest =>
      intro same
      have breaks := unbroken first List.mem_cons_self
      rw [← (List.cons.inj same).1] at breaks
      contradiction
  | colon blank =>
      rintro ⟨⟩
      rw [hasColon, blankFollows_append blank] at noColon
      contradiction

theorem word_unique (leftUnbroken : ∀ character ∈ left, isBreak character = false)
    (rightUnbroken : ∀ character ∈ right, isBreak character = false)
    (leftNoColon : hasColon left = false) (rightNoColon : hasColon right = false)
    (leftEnds : EndsWord leftRest) (rightEnds : EndsWord rightRest)
    (same : left ++ leftRest = right ++ rightRest) : left = right ∧ leftRest = rightRest := by
  induction left generalizing right with
  | nil =>
      cases right with
      | nil => exact ⟨rfl, same⟩
      | cons => exact absurd same (leftEnds.ne_append rightUnbroken rightNoColon)
  | cons first others ih =>
      cases right with
      | nil => exact absurd same.symm (rightEnds.ne_append leftUnbroken leftNoColon)
      | cons second more =>
          obtain ⟨rfl, behind⟩ := List.cons.inj same
          rw [hasColon, Bool.or_eq_false_iff] at leftNoColon rightNoColon
          obtain ⟨rfl, rfl⟩ := ih (List.forall_mem_cons.mp leftUnbroken).2
            (List.forall_mem_cons.mp rightUnbroken).2 leftNoColon.2 rightNoColon.2 behind
          exact ⟨rfl, rfl⟩

theorem hasColon_of_hasInnerMark {blankBefore : Bool}
    (noMark : hasInnerMark blankBefore text = false) : hasColon text = false := by
  induction text generalizing blankBefore with
  | nil => rfl
  | cons character rest ih =>
      simp only [hasInnerMark, Bool.or_eq_false_iff] at noMark
      rw [hasColon, noMark.1.1, ih noMark.2]
      rfl

theorem not_firstMark {first : Char} {rest : List Char}
    (noMark : hasFirstMark (first :: rest) = false) :
    "#,[]\x7b\x7d&*!|>'\"%@`".toList.contains first = false ∧
      ((first == '?' || first == ':' || first == '-') && blankFollows rest) = false := by
  unfold hasFirstMark at noMark
  split at noMark
  · contradiction
  · contradiction
  · contradiction
  · rename_i spelled
    obtain ⟨rfl, rfl⟩ := List.cons.inj spelled
    exact Bool.or_eq_false_iff.mp noMark

theorem word_of_isPlain (plain : isPlain text) : Word text := by
  simp only [isPlain, Bool.and_eq_true, Bool.not_eq_true', bne_iff_ne] at plain
  obtain ⟨⟨⟨⟨⟨⟨_, unbroken⟩, notSpace⟩, _⟩, noFirst⟩, noInner⟩, nonempty⟩ := plain
  cases text with
  | nil => contradiction
  | cons first rest =>
      obtain ⟨unmarked, unfollowed⟩ := not_firstMark noFirst
      have noColon : (first == ':' && blankFollows rest) = false := by
        cases colon : first == ':' <;> simp_all
      refine ⟨fun character member => ?_, ?_, first, rest, rfl, ?_, ?_, fun mark => ?_⟩
      · simpa using List.any_eq_false.mp unbroken character member
      · rw [hasColon, noColon, Bool.false_or]
        exact hasColon_of_hasInnerMark noInner
      · exact fun space => notSpace (congrArg some space)
      · intro quote
        have marked : first ∈ "#,[]\x7b\x7d&*!|>'\"%@`".toList := by
          simp only [List.mem_cons, List.not_mem_nil, or_false] at quote
          rcases quote with rfl | rfl | rfl <;> decide
        rw [List.contains_eq_mem, decide_eq_false_iff_not] at unmarked
        exact unmarked marked
      · simp only [List.mem_cons, List.not_mem_nil, or_false] at mark
        rcases mark with rfl | rfl <;> simpa using unfollowed

theorem IsNumeric.isBreak_eq {character : Char} (numeric : IsNumeric character) :
    isBreak character = false := by
  have unlike (mark : Char) (undigital : mark.isDigit = false) (other : mark ∉ ['-', '.', 'e']) :
      (character == mark) = false := beq_eq_false_iff_ne.mpr (numeric.ne undigital other)
  rw [isBreak, unlike _ (by decide) (by decide), unlike _ (by decide) (by decide),
    unlike _ (by decide) (by decide), unlike _ (by decide) (by decide),
    unlike _ (by decide) (by decide)]
  rfl

theorem hasColon_of_not_mem (absent : ':' ∉ text) : hasColon text = false := by
  induction text with
  | nil => rfl
  | cons first rest ih =>
      obtain ⟨here, behind⟩ := not_or.mp (mt List.mem_cons.mpr absent)
      rw [hasColon, ih behind, beq_eq_false_iff_ne.mpr (Ne.symm here)]
      rfl

theorem blankFollows_digit {first : Char} (digit : first.isDigit) (rest : List Char) :
    blankFollows (first :: rest) = false := by
  have unlike (mark : Char) (undigital : mark.isDigit = false) : (first == mark) = false :=
    beq_eq_false_iff_ne.mpr (ne_of_isDigit digit undigital)
  have unbroken : isBreak first = false := IsNumeric.isBreak_eq (.inl digit)
  rw [blankFollows, unlike _ (by decide), unlike _ (by decide), unlike _ (by decide), unbroken]
  rfl

theorem word_of_numeric (negative : Bool) {first : Char} {rest : List Char} (digit : first.isDigit)
    (numeric : ∀ character ∈ first :: rest, IsNumeric character) :
    Word ((if negative then ['-'] else []) ++ first :: rest) := by
  have signed : ∀ character ∈ (if negative then ['-'] else []) ++ first :: rest,
      IsNumeric character := by
    refine List.forall_mem_append.mpr ⟨fun character member => ?_, numeric⟩
    split at member <;> simp_all [IsNumeric]
  refine ⟨fun character member => (signed character member).isBreak_eq,
    hasColon_of_not_mem fun member => (signed ':' member).ne (by decide) (by decide) rfl, ?_⟩
  cases negative with
  | true =>
      exact ⟨'-', first :: rest, rfl, by decide, by decide, fun _ => blankFollows_digit digit rest⟩
  | false =>
      refine ⟨first, rest, rfl, ne_of_isDigit digit rfl, ?_, fun mark => ?_⟩
      · simp [ne_of_isDigit digit]
      · simp [ne_of_isDigit digit] at mark

end Words

end Reshape.Yaml

namespace Reshape.View

open Yaml

/-- A scalar or an empty container, but no record. -/
def Leaf : View → Prop
  | .list (_ :: _) | .map (_ :: _) | .record _ _ => False
  | _ => True

def form : View → Form
  | .string text => formOf text
  | _ => .plain

def ofMeaning (text : String) : Meaning → View
  | .null => .null
  | .bool value => .bool value
  | .int value => if fits : Number.FitsWord value then .number (.int value fits) else .null
  | .float (some value) => .number (.float value)
  | _ => .string text

/-- The leaf that a text without quotes stands for. -/
def ofPlain (text : String) : View :=
  if text = "[]" then .list []
  else if text = "\x7b\x7d" then .map []
  else ofMeaning text (Meaning.ofPlain text)

theorem formOf_plain {text : String} (plain : formOf text = .plain) :
    isAmbiguous text = false ∧ isPlain text.toList := by
  unfold formOf at plain
  dsimp only at plain
  split at plain
  · split at plain <;> contradiction
  · split at plain
    · rename_i unquoted
      simpa using unquoted
    · split at plain <;> contradiction

theorem formOf_block {text : String} (block : formOf text = .block) : text.toList ≠ [] := by
  unfold formOf at block
  dsimp only at block
  split at block
  · rename_i feed
    intro empty
    simp [empty] at feed
  · split at block
    · contradiction
    · split at block <;> contradiction

theorem ofPlain_number (number : Number) : ofPlain (number.textWith "e") = .number number := by
  obtain ⟨negative, first, rest, text, digit, _⟩ := textWith_numeric number
  have starts : startsNumeric (number.textWith "e").toList := by
    rw [text]
    exact startsNumeric_signed negative digit rest
  have notList : number.textWith "e" ≠ "[]" := by
    intro same
    rw [same] at starts
    contradiction
  have notMap : number.textWith "e" ≠ "\x7b\x7d" := by
    intro same
    rw [same] at starts
    contradiction
  rw [ofPlain, if_neg notList, if_neg notMap]
  cases number with
  | int value fits =>
      rw [ofPlain_int]
      exact dif_pos fits
  | float value =>
      have meaning : Meaning.ofPlain ((Number.float value).textWith "e") = _ := ofPlain_float value
      rw [meaning]
      rfl

theorem ofPlain_string {text : String} (plain : formOf text = .plain) :
    ofPlain text = .string text := by
  obtain ⟨unambiguous, unquoted⟩ := formOf_plain plain
  have meaning : Meaning.ofPlain text = .text := by
    rw [isAmbiguous, Bool.or_eq_false_iff] at unambiguous
    have other := unambiguous.2
    split at other
    · assumption
    · contradiction
  have notList : text ≠ "[]" := by
    rintro rfl
    contradiction
  have notMap : text ≠ "\x7b\x7d" := by
    rintro rfl
    contradiction
  rw [ofPlain, if_neg notList, if_neg notMap, meaning]
  rfl

theorem ofPlain_leafChars {leaf : View} (isLeaf : leaf.Leaf) (plain : leaf.form = .plain)
    (indent : Nat) : ofPlain (String.ofList (leaf.leafChars indent)) = leaf := by
  cases leaf with
  | null => rfl
  | bool value => cases value <;> rfl
  | number number =>
      rw [leafChars, String.ofList_toList]
      exact ofPlain_number number
  | string text =>
      change formOf text = .plain at plain
      rw [leafChars, stringChars, plain]
      dsimp only
      rw [String.ofList_toList]
      exact ofPlain_string plain
  | list items =>
      cases items with
      | nil => rfl
      | cons => exact isLeaf.elim
  | map entries =>
      cases entries with
      | nil => rfl
      | cons => exact isLeaf.elim
  | record name entries => exact isLeaf.elim

theorem fixed_word : ∀ text ∈ [['n', 'u', 'l', 'l'], ['t', 'r', 'u', 'e'], ['f', 'a', 'l', 's', 'e'],
    ['[', ']'], ['\x7b', '\x7d']], Word text := by
  intro text member
  simp only [List.mem_cons, List.not_mem_nil, or_false] at member
  rcases member with rfl | rfl | rfl | rfl | rfl <;>
    exact ⟨by simp [isBreak], by decide, _, _, rfl, by decide, by decide, by decide⟩

theorem word_leafChars {leaf : View} (isLeaf : leaf.Leaf) (plain : leaf.form = .plain)
    (indent : Nat) : Word (leaf.leafChars indent) := by
  cases leaf with
  | null => exact fixed_word ['n', 'u', 'l', 'l'] (by decide)
  | bool value =>
      cases value with
      | true => exact fixed_word ['t', 'r', 'u', 'e'] (by decide)
      | false => exact fixed_word ['f', 'a', 'l', 's', 'e'] (by decide)
  | number number =>
      obtain ⟨negative, first, rest, text, digit, numeric⟩ := textWith_numeric number
      rw [leafChars, text]
      exact word_of_numeric negative digit numeric
  | string text =>
      change formOf text = .plain at plain
      rw [leafChars, stringChars, plain]
      exact word_of_isPlain (formOf_plain plain).2
  | list items => exact fixed_word ['[', ']'] (by decide)
  | map entries => exact fixed_word ['\x7b', '\x7d'] (by decide)
  | record name entries => exact isLeaf.elim

theorem eq_string {leaf : View} (quoted : leaf.form ≠ .plain) :
    ∃ text, leaf = .string text ∧ formOf text = leaf.form := by
  cases leaf with
  | string text => exact ⟨text, rfl, rfl⟩
  | _ => exact absurd rfl quoted

/-- The form that the first character of a leaf tells. -/
def formOfFirst (first : Char) : Form :=
  if first = '"' then .doubleQuoted
  else if first = '\'' then .singleQuoted
  else if first = '|' then .block
  else .plain

theorem leafChars_cons {leaf : View} (isLeaf : leaf.Leaf) (indent : Nat) :
    ∃ first rest, leaf.leafChars indent = first :: rest ∧ first ≠ ' ' ∧ isBreak first = false ∧
      formOfFirst first = leaf.form := by
  by_cases plain : leaf.form = .plain
  · have word := word_leafChars isLeaf plain indent
    obtain ⟨first, rest, spelled, notSpace, unquoted, _⟩ := word.starts
    refine ⟨first, rest, spelled, notSpace, word.unbroken first (by simp [spelled]), ?_⟩
    simp_all [formOfFirst]
  · obtain ⟨text, rfl, form⟩ := eq_string plain
    rw [leafChars, stringChars]
    cases written : formOf text with
    | plain => exact absurd (form ▸ written) plain
    | singleQuoted => exact ⟨_, _, rfl, by decide, rfl, written.symm⟩
    | doubleQuoted => exact ⟨_, _, rfl, by decide, rfl, written.symm⟩
    | block => exact ⟨_, _, rfl, by decide, rfl, written.symm⟩

section Unique

variable {left right : View} {indent : Nat} {leftRest rightRest : List Char}

theorem form_eq (leftLeaf : left.Leaf) (rightLeaf : right.Leaf)
    (same : left.leafChars indent ++ leftRest = right.leafChars indent ++ rightRest) :
    left.form = right.form := by
  obtain ⟨first, others, spelled, _, _, form⟩ := leafChars_cons leftLeaf indent
  obtain ⟨second, more, otherSpelled, _, _, otherForm⟩ := leafChars_cons rightLeaf indent
  rw [spelled, otherSpelled] at same
  rw [← form, ← otherForm, (List.cons.inj same).1]

/-- A leaf that is no block is known up to the end of its line or up to a colon. -/
theorem leafChars_unique (leftLeaf : left.Leaf) (rightLeaf : right.Leaf)
    (unblocked : left.form ≠ .block) (leftEnds : EndsWord leftRest) (rightEnds : EndsWord rightRest)
    (same : left.leafChars indent ++ leftRest = right.leafChars indent ++ rightRest) :
    left = right ∧ leftRest = rightRest := by
  have forms := form_eq leftLeaf rightLeaf same
  by_cases plain : left.form = .plain
  · have otherPlain : right.form = .plain := forms ▸ plain
    have word := word_leafChars leftLeaf plain indent
    have otherWord := word_leafChars rightLeaf otherPlain indent
    obtain ⟨text, rfl⟩ := word_unique word.unbroken otherWord.unbroken word.noColon
      otherWord.noColon leftEnds rightEnds same
    refine ⟨?_, rfl⟩
    rw [← ofPlain_leafChars leftLeaf plain indent, text, ofPlain_leafChars rightLeaf otherPlain]
  · obtain ⟨text, rfl, written⟩ := eq_string plain
    obtain ⟨otherText, rfl, otherWritten⟩ := eq_string (forms ▸ plain)
    rw [forms] at written
    rw [leafChars, leafChars, stringChars, stringChars, written, otherWritten] at same
    suffices characters : text.toList = otherText.toList ∧ leftRest = rightRest from
      ⟨congrArg View.string (String.toList_inj.mp characters.1), characters.2⟩
    cases form : View.form (.string otherText) with
    | plain => exact absurd (forms.trans form) plain
    | block => exact absurd (forms.trans form) unblocked
    | singleQuoted =>
        rw [form] at same
        exact quotedChars_unique leftEnds.head?_ne_quote rightEnds.head?_ne_quote
          (List.cons.inj same).2
    | doubleQuoted =>
        rw [form] at same
        simp only [List.cons_append, List.append_assoc, List.cons.injEq, true_and,
          List.nil_append] at same
        exact escapes_unique same

end Unique

end Reshape.View
