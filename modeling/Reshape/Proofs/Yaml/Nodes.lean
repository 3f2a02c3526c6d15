import Reshape.Command.Output
import Reshape.Proofs.Value.RecordFree
import Reshape.Proofs.Yaml.Leaf

namespace Reshape

open Yaml

/-- A string that is written as a block which keeps the breaks at its end. -/
def Yaml.KeepsEnd (text : String) : Prop := formOf text = .block ∧ blockSign text.toList = ['+']

/-- Views that are the same but for the line feeds at the end of their last string, which is written
as a block that keeps them. -/
inductive View.EndAlike : View → View → Prop
  | string {left right : String} (leftKeeps : KeepsEnd left) (rightKeeps : KeepsEnd right)
      (same : Command.trimLineFeeds left = Command.trimLineFeeds right) :
      EndAlike (.string left) (.string right)
  | list (front : List View) {left right : View} (last : EndAlike left right) :
      EndAlike (.list (front ++ [left])) (.list (front ++ [right]))
  | map (front : List (String × View)) (name : String) {left right : View}
      (last : EndAlike left right) :
      EndAlike (.map (front ++ [(name, left)])) (.map (front ++ [(name, right)]))

namespace View

variable {left right leaf : View} {indent : Nat} {leftRest rightRest rest : List Char}

/-- The views before two texts are the same, or the texts are blank and the views are alike but for
the line feeds at their ends. -/
def Agree (left right : View) (leftRest rightRest : List Char) : Prop :=
  (left = right ∧ leftRest = rightRest) ∨
    (Blank leftRest ∧ Blank rightRest ∧ left.EndAlike right)

section Leaves

theorem endLine_of_last {front : List Char} {last : Char} (unbroken : isBreak last = false) :
    endLine (front ++ [last]) = front ++ [last] ++ ['\n'] := by
  rw [endLine_append_singleton, if_neg (by simp [unbroken])]

theorem exists_quotedChars (afterBreak : Bool) (text : List Char) :
    ∃ front, quotedChars indent afterBreak text = front ++ ['\''] := by
  induction text generalizing afterBreak with
  | nil => exact ⟨_, rfl⟩
  | cons first others ih =>
      cases breaks : isBreak first with
      | true =>
          obtain ⟨front, spelled⟩ := ih true
          exact ⟨first :: front, by rw [quotedChars_break breaks, spelled]; rfl⟩
      | false =>
          obtain ⟨front, spelled⟩ := ih false
          refine ⟨(if afterBreak then spaces indent else []) ++
            first :: ((if first == '\'' then ['\''] else []) ++ front), ?_⟩
          rw [quotedChars_cons breaks, spelled]
          simp

theorem endLine_leafChars (isLeaf : leaf.Leaf) (unblocked : leaf.form ≠ .block) :
    endLine (leaf.leafChars indent) = leaf.leafChars indent ++ ['\n'] := by
  suffices last : ∃ front last, leaf.leafChars indent = front ++ [last] ∧ isBreak last = false by
    obtain ⟨front, last, spelled, unbroken⟩ := last
    rw [spelled]
    exact endLine_of_last unbroken
  by_cases plain : leaf.form = .plain
  · have word := word_leafChars isLeaf plain indent
    obtain ⟨first, others, spelled, _⟩ := word.starts
    have nonempty : leaf.leafChars indent ≠ [] := by simp [spelled]
    obtain ⟨front, last, ending⟩ := exists_last nonempty
    exact ⟨front, last, ending, word.unbroken last (by simp [ending])⟩
  · obtain ⟨text, rfl, written⟩ := eq_string plain
    rw [leafChars, stringChars]
    cases form : formOf text with
    | plain => exact absurd (written ▸ form) plain
    | block => exact absurd (written ▸ form) unblocked
    | singleQuoted =>
        obtain ⟨front, spelled⟩ : ∃ front, quotedChars indent false text.toList = front ++ ['\''] :=
          exists_quotedChars false text.toList
        exact ⟨'\'' :: front, '\'', congrArg (List.cons '\'') spelled, by decide⟩
    | doubleQuoted => exact ⟨_, '"', rfl, by decide⟩

theorem endLine_append (text : List Char) : ∃ ending, endLine text = text ++ ending := by
  unfold endLine
  split
  · exact ⟨[], (List.append_nil text).symm⟩
  · exact ⟨['\n'], rfl⟩

theorem form_eq_of_endLine (leftLeaf : left.Leaf) (rightLeaf : right.Leaf)
    (same : endLine (left.leafChars indent) ++ leftRest = right.leafChars indent ++ rightRest) :
    left.form = right.form := by
  obtain ⟨ending, ends⟩ := endLine_append (left.leafChars indent)
  rw [ends, List.append_assoc] at same
  exact form_eq leftLeaf rightLeaf same

theorem eq_block (block : leaf.form = .block) :
    ∃ text, leaf = .string text ∧ formOf text = .block := by
  have quoted : leaf.form ≠ .plain := by simp [block]
  obtain ⟨text, same, written⟩ := eq_string quoted
  exact ⟨text, same, written.trans block⟩

/-- A leaf is known from its text, or but for the line feeds at the end of a block. -/
theorem leaf_unique (leftLeaf : left.Leaf) (rightLeaf : right.Leaf)
    (leftOut : Outdented indent leftRest) (rightOut : Outdented indent rightRest)
    (same : endLine (left.leafChars indent) ++ leftRest =
      endLine (right.leafChars indent) ++ rightRest) : Agree left right leftRest rightRest := by
  have forms : left.form = right.form := by
    obtain ⟨ending, ends⟩ := endLine_append (right.leafChars indent)
    rw [ends, List.append_assoc] at same
    exact form_eq_of_endLine leftLeaf rightLeaf same
  by_cases block : left.form = .block
  · obtain ⟨text, rfl, written⟩ := eq_block block
    obtain ⟨otherText, rfl, otherWritten⟩ := eq_block (forms ▸ block)
    rw [leafChars, leafChars, stringChars, stringChars, written, otherWritten] at same
    rcases block_unique (formOf_block written) (formOf_block otherWritten) leftOut rightOut same with
      ⟨texts, rests⟩ | ⟨blank, otherBlank, sign, otherSign, alike⟩
    · exact .inl ⟨congrArg View.string (String.toList_inj.mp texts), rests⟩
    · exact .inr ⟨blank, otherBlank,
        .string ⟨written, sign⟩ ⟨otherWritten, otherSign⟩ (congrArg String.ofList alike)⟩
  · rw [endLine_leafChars leftLeaf block, endLine_leafChars rightLeaf (forms ▸ block),
      List.append_assoc, List.append_assoc] at same
    obtain ⟨rfl, rests⟩ := leafChars_unique leftLeaf rightLeaf block (.line leftRest)
      (.line rightRest) same
    exact .inl ⟨rfl, (List.cons.inj rests).2⟩

end Leaves

section Starts

theorem cases_of_recordFree : (view : View) → view.RecordFree →
    view.Leaf ∨ (∃ first rest, view = .list (first :: rest)) ∨
      ∃ name first rest, view = .map ((name, first) :: rest)
  | .list (first :: rest), _ => .inr (.inl ⟨first, rest, rfl⟩)
  | .map ((name, first) :: rest), _ => .inr (.inr ⟨name, first, rest, rfl⟩)
  | .null, _ | .bool _, _ | .number _, _ | .string _, _ | .list [], _ | .map [], _ => .inl trivial

theorem nodeChars_leaf (isLeaf : leaf.Leaf) (indent : Nat) :
    leaf.nodeChars indent = endLine (leaf.leafChars indent) := by
  cases leaf with
  | list items => cases items <;> first | rfl | exact isLeaf.elim
  | map entries => cases entries <;> first | rfl | exact isLeaf.elim
  | record => exact isLeaf.elim
  | _ => rfl

theorem namedChars_leaf (isLeaf : leaf.Leaf) (indent : Nat) :
    leaf.namedChars indent = ' ' :: endLine (leaf.leafChars (indent + 2)) := by
  cases leaf with
  | list items => cases items <;> first | rfl | exact isLeaf.elim
  | map entries => cases entries <;> first | rfl | exact isLeaf.elim
  | record => exact isLeaf.elim
  | _ => rfl

theorem nodeChars_list (first : View) (rest : List View) :
    (View.list (first :: rest)).nodeChars indent =
      '-' :: ' ' :: (first.nodeChars (indent + 2) ++ itemChars indent rest) := by
  have length : (spaces indent).length = indent := List.length_replicate
  rw [nodeChars, itemChars, List.append_assoc, List.drop_left' length]
  rfl

theorem spaces_append_nodeChars_list (first : View) (rest : List View) :
    spaces indent ++ (View.list (first :: rest)).nodeChars indent =
      itemChars indent (first :: rest) := by
  rw [nodeChars_list, itemChars, List.append_assoc]
  rfl

def entryChars (indent : Nat) (name : String) (value : View) : List Char :=
  if isShortName name then stringChars indent name ++ ':' :: value.namedChars indent
  else
    '?' :: ' ' :: endLine (stringChars (indent + 2) name) ++
      spaces indent ++ ':' :: ' ' :: value.nodeChars (indent + 2)

theorem mapChars_cons (name : String) (value : View) (others : List (String × View)) :
    mapChars indent ((name, value) :: others) =
      spaces indent ++ entryChars indent name value ++ mapChars indent others := rfl

theorem nodeChars_map (name : String) (value : View) (others : List (String × View)) :
    (View.map ((name, value) :: others)).nodeChars indent =
      entryChars indent name value ++ mapChars indent others := by
  have length : (spaces indent).length = indent := List.length_replicate
  rw [nodeChars, mapChars_cons, List.append_assoc, List.drop_left' length]

theorem spaces_append_nodeChars_map (name : String) (value : View)
    (others : List (String × View)) :
    spaces indent ++ (View.map ((name, value) :: others)).nodeChars indent =
      mapChars indent ((name, value) :: others) := by
  rw [nodeChars_map, mapChars_cons, List.append_assoc]

theorem form_of_isShortName {name : String} (short : isShortName name) :
    (View.string name).form ≠ .block := by
  intro block
  have feed : '\n' ∈ name.toList := by
    change formOf name = .block at block
    unfold formOf at block
    dsimp only at block
    split at block
    · rename_i feed
      simpa using feed
    · split at block
      · contradiction
      · split at block <;> contradiction
  rw [isShortName, Bool.and_eq_true, Bool.not_eq_true'] at short
  have unbroken := List.any_eq_false.mp short.2 '\n' feed
  exact unbroken rfl

theorem quotedChars_unbroken (other : Nat) {text : List Char}
    (unbroken : ∀ character ∈ text, isBreak character = false) :
    quotedChars indent false text = quotedChars other false text := by
  induction text with
  | nil => rfl
  | cons first rest ih =>
      obtain ⟨here, behind⟩ := List.forall_mem_cons.mp unbroken
      rw [quotedChars_cons here, quotedChars_cons here, ih behind]
      rfl

theorem stringChars_of_isShortName {name : String} (short : isShortName name) (other : Nat) :
    stringChars indent name = stringChars other name := by
  have unblocked := form_of_isShortName short
  unfold stringChars
  dsimp only
  split
  · rfl
  · rw [quotedChars_unbroken other]
    rw [isShortName, Bool.and_eq_true, Bool.not_eq_true'] at short
    exact fun character member => by simpa using List.any_eq_false.mp short.2 character member
  · rfl
  · rename_i block
    exact absurd block unblocked

theorem leafChars_ne_mark (isLeaf : leaf.Leaf) {mark : Char} (marks : mark ∈ ['-', '?'])
    (others : List Char) : leaf.leafChars indent ++ rest ≠ mark :: ' ' :: others := by
  intro same
  obtain ⟨first, more, spelled, _, _, form⟩ := leafChars_cons isLeaf indent
  rw [spelled] at same
  obtain ⟨rfl, behind⟩ := List.cons.inj same
  have plain : leaf.form = .plain := by
    rw [← form]
    simp only [List.mem_cons, List.not_mem_nil, or_false] at marks
    rcases marks with rfl | rfl <;> rfl
  obtain ⟨start, rests, otherSpelled, _, _, unfollowed⟩ :=
    (word_leafChars isLeaf plain indent).starts
  rw [spelled] at otherSpelled
  obtain ⟨rfl, rfl⟩ := List.cons.inj otherSpelled
  cases more with
  | nil => exact absurd (unfollowed marks) (by decide)
  | cons next =>
      rw [(List.cons.inj behind).1] at unfollowed
      exact absurd (unfollowed marks) (by simp [blankFollows])

theorem endLine_leafChars_ne_mark (isLeaf : leaf.Leaf) {mark : Char} (marks : mark ∈ ['-', '?'])
    (others : List Char) : endLine (leaf.leafChars indent) ++ rest ≠ mark :: ' ' :: others := by
  obtain ⟨ending, ends⟩ := endLine_append (leaf.leafChars indent)
  rw [ends, List.append_assoc]
  exact leafChars_ne_mark isLeaf marks others

theorem blankFollows_namedChars : (value : View) → (indent : Nat) → (rest : List Char) →
    blankFollows (value.namedChars indent ++ rest)
  | .list (_ :: _), _, _ | .map (_ :: _), _, _ | .record _ (_ :: _), _, _ => rfl
  | .null, _, _ | .bool _, _, _ | .number _, _, _ | .string _, _, _ => rfl
  | .list [], _, _ | .map [], _, _ | .record _ [], _, _ => rfl

theorem entryChars_ne_item (name : String) (value : View) (others : List Char) :
    entryChars indent name value ++ rest ≠ '-' :: ' ' :: others := by
  unfold entryChars
  split
  · rw [List.append_assoc]
    exact leafChars_ne_mark (show (View.string name).Leaf from trivial) (by decide) others
  · intro same
    exact absurd (List.cons.inj same).1 (by decide)

theorem entryChars_ne_leaf {name : String} {value : View} (isLeaf : leaf.Leaf) (other : Nat) :
    endLine (leaf.leafChars other) ++ leftRest ≠ entryChars indent name value ++ rightRest := by
  unfold entryChars
  split
  · rename_i short
    rw [stringChars_of_isShortName short other, List.append_assoc]
    intro same
    have name : (View.string name).Leaf := trivial
    have unblocked : leaf.form ≠ .block := form_eq_of_endLine isLeaf name same ▸
      form_of_isShortName short
    rw [endLine_leafChars isLeaf unblocked, List.append_assoc] at same
    have rests := (leafChars_unique isLeaf name unblocked (.line leftRest)
      (.colon (blankFollows_namedChars value indent rightRest)) same).2
    exact absurd (List.cons.inj rests).1 (by decide)
  · exact endLine_leafChars_ne_mark isLeaf (by decide) _

theorem entryChars_cons (indent : Nat) (name : String) (value : View) :
    ∃ first others, entryChars indent name value = first :: others ∧ first ≠ ' ' ∧
      isBreak first = false := by
  unfold entryChars
  split
  · have isLeaf : (View.string name).Leaf := trivial
    obtain ⟨first, others, spelled, visible, unbroken, _⟩ := leafChars_cons isLeaf indent
    change stringChars indent name = first :: others at spelled
    exact ⟨first, _, by rw [spelled]; rfl, visible, unbroken⟩
  · exact ⟨'?', _, rfl, by decide, rfl⟩

theorem leafChars_ne_nodeChars (isLeaf : leaf.Leaf) (free : right.RecordFree)
    (unlike : ¬ right.Leaf) (other : Nat) :
    endLine (leaf.leafChars other) ++ leftRest ≠ right.nodeChars indent ++ rightRest := by
  rcases cases_of_recordFree right free with rightLeaf | ⟨first, rest, rfl⟩ |
    ⟨name, value, rest, rfl⟩
  · exact absurd rightLeaf unlike
  · rw [nodeChars_list]
    exact endLine_leafChars_ne_mark isLeaf (by decide) _
  · rw [nodeChars_map, List.append_assoc]
    exact entryChars_ne_leaf isLeaf other

end Starts

end View

end Reshape
