import Reshape.Proofs.Yaml.Nodes
/-!
YAML documents. The indentation of what follows a node tells where the node ends, so a document is
known from its text. Where the line feeds at the end of the text are left out, it is known but for
those that its last string ends with.
-/

namespace Reshape

open Yaml

namespace View

variable {left right leaf : View} {indent : Nat} {leftRest rightRest rest : List Char}

section Rests

/-- What may follow a value under a name: a line that is indented as the name is belongs to another
entry, but is no item. -/
structure AfterValue (indent : Nat) (rest : List Char) : Prop where
  outdented : Outdented (indent + 1) rest
  noItem : ∀ others, rest ≠ spaces indent ++ '-' :: ' ' :: others

theorem not_outdented {first : Char} {others : List Char}
    (unbroken : isBreak first = false) : ¬ Outdented indent (spaces indent ++ first :: others) := by
  rintro (blank | ⟨count, second, more, small, same, notSpace, _⟩)
  · rw [blank first (by simp)] at unbroken
    contradiction
  · exact spaces_ne small notSpace same.symm

theorem outdented_spaces {count : Nat} {first : Char} {others : List Char} (small : count < indent)
    (visible : first ≠ ' ') (unbroken : isBreak first = false) :
    Outdented indent (spaces count ++ first :: others) :=
  .inr ⟨count, first, others, small, rfl, visible, unbroken⟩

theorem afterValue_of_outdented (out : Outdented indent rest) : AfterValue indent rest := by
  refine ⟨out.mono (Nat.le_succ indent), ?_⟩
  rintro others rfl
  exact not_outdented rfl out

theorem outdented_itemChars (items : List View) (out : Outdented (indent + 1) rest) :
    Outdented (indent + 1) (itemChars indent items ++ rest) := by
  cases items with
  | nil => exact out
  | cons item others =>
      rw [itemChars, List.append_assoc, List.append_assoc]
      exact outdented_spaces (Nat.lt_succ_self indent) (by decide) rfl

theorem afterValue_mapChars (entries : List (String × View)) (out : Outdented indent rest) :
    AfterValue indent (mapChars indent entries ++ rest) := by
  cases entries with
  | nil => exact afterValue_of_outdented out
  | cons entry others =>
      obtain ⟨name, value⟩ := entry
      rw [mapChars_cons, List.append_assoc, List.append_assoc]
      constructor
      · obtain ⟨first, more, spelled, visible, unbroken⟩ := entryChars_cons indent name value
        rw [spelled]
        exact outdented_spaces (Nat.lt_succ_self indent) visible unbroken
      · intro more same
        exact entryChars_ne_item name value more (List.append_cancel_left same)

theorem not_outdented_mapChars (name : String) (value : View) (others : List (String × View)) :
    ¬ Outdented indent (mapChars indent ((name, value) :: others) ++ rest) := by
  obtain ⟨first, more, spelled, _, unbroken⟩ := entryChars_cons indent name value
  rw [mapChars_cons, List.append_assoc, List.append_assoc, spelled]
  exact not_outdented unbroken

theorem eq_nil_of_blank_itemChars {items : List View}
    (blank : Blank (itemChars indent items ++ rest)) : items = [] := by
  cases items with
  | nil => rfl
  | cons item others => exact absurd (blank '-' (by simp [itemChars])) (by decide)

theorem eq_nil_of_blank_mapChars {entries : List (String × View)}
    (blank : Blank (mapChars indent entries ++ rest)) : entries = [] := by
  cases entries with
  | nil => rfl
  | cons entry others => exact absurd (.inl blank) (not_outdented_mapChars entry.1 entry.2 others)

end Rests

section Agreement

variable {lefts rights : List View} {leftEntries rightEntries : List (String × View)}

theorem Agree.item (same : Agree left right leftRest rightRest) :
    Agree (.list [left]) (.list [right]) leftRest rightRest := by
  rcases same with ⟨rfl, rfl⟩ | ⟨blank, otherBlank, alike⟩
  · exact .inl ⟨rfl, rfl⟩
  · exact .inr ⟨blank, otherBlank, .list [] alike⟩

theorem Agree.cons_item (item : View) (same : Agree (.list lefts) (.list rights) leftRest rightRest) :
    Agree (.list (item :: lefts)) (.list (item :: rights)) leftRest rightRest := by
  rcases same with ⟨same, rfl⟩ | ⟨blank, otherBlank, alike⟩
  · cases same
    exact .inl ⟨rfl, rfl⟩
  · refine .inr ⟨blank, otherBlank, ?_⟩
    cases alike with
    | list front last => exact .list (item :: front) last

theorem Agree.entry (name : String) (same : Agree left right leftRest rightRest) :
    Agree (.map [(name, left)]) (.map [(name, right)]) leftRest rightRest := by
  rcases same with ⟨rfl, rfl⟩ | ⟨blank, otherBlank, alike⟩
  · exact .inl ⟨rfl, rfl⟩
  · exact .inr ⟨blank, otherBlank, .map [] name alike⟩

theorem Agree.cons_entry (entry : String × View)
    (same : Agree (.map leftEntries) (.map rightEntries) leftRest rightRest) :
    Agree (.map (entry :: leftEntries)) (.map (entry :: rightEntries)) leftRest rightRest := by
  rcases same with ⟨same, rfl⟩ | ⟨blank, otherBlank, alike⟩
  · cases same
    exact .inl ⟨rfl, rfl⟩
  · refine .inr ⟨blank, otherBlank, ?_⟩
    cases alike with
    | map front name last => exact .map (entry :: front) name last

end Agreement

section Known

/-- A node is known from its text, whatever text of the same kind follows. -/
def NodeKnown (left : View) : Prop :=
  ∀ right : View, right.RecordFree → ∀ (indent : Nat) (leftRest rightRest : List Char),
    Outdented indent leftRest → Outdented indent rightRest →
      left.nodeChars indent ++ leftRest = right.nodeChars indent ++ rightRest →
        Agree left right leftRest rightRest

/-- The same of a node after its name. -/
def ValueKnown (left : View) : Prop :=
  ∀ right : View, right.RecordFree → ∀ (indent : Nat) (leftRest rightRest : List Char),
    AfterValue indent leftRest → AfterValue indent rightRest →
      left.namedChars indent ++ leftRest = right.namedChars indent ++ rightRest →
        Agree left right leftRest rightRest

/-- The same of the items of a list. -/
def ItemsKnown (lefts : List View) : Prop :=
  ∀ rights : List View, ItemsRecordFree rights → ∀ (indent : Nat) (leftRest rightRest : List Char),
    AfterValue indent leftRest → AfterValue indent rightRest →
      itemChars indent lefts ++ leftRest = itemChars indent rights ++ rightRest →
        Agree (.list lefts) (.list rights) leftRest rightRest

/-- The same of the entries of a map. -/
def EntriesKnown (lefts : List (String × View)) : Prop :=
  ∀ rights : List (String × View), EntriesRecordFree rights →
    ∀ (indent : Nat) (leftRest rightRest : List Char),
      Outdented indent leftRest → Outdented indent rightRest →
        mapChars indent lefts ++ leftRest = mapChars indent rights ++ rightRest →
          Agree (.map lefts) (.map rights) leftRest rightRest

variable {first value : View} {items : List View} {name : String} {entries : List (String × View)}

theorem nodeKnown_leaf (isLeaf : leaf.Leaf) : NodeKnown leaf := by
  intro right free indent leftRest rightRest leftOut rightOut same
  rw [nodeChars_leaf isLeaf] at same
  by_cases rightLeaf : right.Leaf
  · rw [nodeChars_leaf rightLeaf] at same
    exact leaf_unique isLeaf rightLeaf leftOut rightOut same
  · exact absurd same (leafChars_ne_nodeChars isLeaf free rightLeaf indent)

theorem nodeKnown_list (known : ItemsKnown (first :: items)) :
    NodeKnown (.list (first :: items)) := by
  intro right free indent leftRest rightRest leftOut rightOut same
  rcases cases_of_recordFree right free with rightLeaf | ⟨second, others, rfl⟩ |
    ⟨name, second, others, rfl⟩
  · rw [nodeChars_list, nodeChars_leaf rightLeaf] at same
    exact absurd same.symm (endLine_leafChars_ne_mark rightLeaf (by decide) _)
  · apply known (second :: others) free indent leftRest rightRest
      (afterValue_of_outdented leftOut) (afterValue_of_outdented rightOut)
    rw [← spaces_append_nodeChars_list, ← spaces_append_nodeChars_list, List.append_assoc, same,
      List.append_assoc]
  · rw [nodeChars_list, nodeChars_map, List.append_assoc] at same
    exact absurd same.symm (entryChars_ne_item name second _)

theorem nodeKnown_map (known : EntriesKnown ((name, value) :: entries)) :
    NodeKnown (.map ((name, value) :: entries)) := by
  intro right free indent leftRest rightRest leftOut rightOut same
  rcases cases_of_recordFree right free with rightLeaf | ⟨second, others, rfl⟩ |
    ⟨otherName, second, others, rfl⟩
  · rw [nodeChars_map, nodeChars_leaf rightLeaf, List.append_assoc] at same
    exact absurd same.symm (entryChars_ne_leaf rightLeaf indent)
  · rw [nodeChars_list, nodeChars_map, List.append_assoc] at same
    exact absurd same (entryChars_ne_item name value _)
  · apply known ((otherName, second) :: others) free indent leftRest rightRest leftOut rightOut
    rw [← spaces_append_nodeChars_map, ← spaces_append_nodeChars_map, List.append_assoc, same,
      List.append_assoc]

theorem valueKnown_leaf (isLeaf : leaf.Leaf) : ValueKnown leaf := by
  intro right free indent leftRest rightRest leftAfter rightAfter same
  rw [namedChars_leaf isLeaf] at same
  rcases cases_of_recordFree right free with rightLeaf | ⟨second, others, rfl⟩ |
    ⟨name, second, others, rfl⟩
  · rw [namedChars_leaf rightLeaf] at same
    exact leaf_unique isLeaf rightLeaf (leftAfter.outdented.mono (Nat.le_succ _))
      (rightAfter.outdented.mono (Nat.le_succ _)) (List.cons.inj same).2
  · exact absurd (List.cons.inj same).1 (by decide)
  · exact absurd (List.cons.inj same).1 (by decide)

theorem itemChars_ne_mapChars :
    itemChars indent (first :: items) ++ leftRest ≠
      mapChars (indent + 2) ((name, value) :: entries) ++ rightRest := by
  rw [itemChars, mapChars_cons, List.append_assoc, List.append_assoc, List.append_assoc,
    List.append_assoc]
  exact spaces_ne (by omega) (by decide)

theorem valueKnown_list (known : ItemsKnown (first :: items)) :
    ValueKnown (.list (first :: items)) := by
  intro right free indent leftRest rightRest leftAfter rightAfter same
  rcases cases_of_recordFree right free with rightLeaf | ⟨second, others, rfl⟩ |
    ⟨name, second, others, rfl⟩
  · rw [namedChars_leaf rightLeaf] at same
    exact absurd (List.cons.inj same).1 (by decide)
  · exact known (second :: others) free indent leftRest rightRest leftAfter rightAfter
      (List.cons.inj same).2
  · exact absurd (List.cons.inj same).2 itemChars_ne_mapChars

theorem valueKnown_map (known : EntriesKnown ((name, value) :: entries)) :
    ValueKnown (.map ((name, value) :: entries)) := by
  intro right free indent leftRest rightRest leftAfter rightAfter same
  rcases cases_of_recordFree right free with rightLeaf | ⟨second, others, rfl⟩ |
    ⟨otherName, second, others, rfl⟩
  · rw [namedChars_leaf rightLeaf] at same
    exact absurd (List.cons.inj same).1 (by decide)
  · exact absurd (List.cons.inj same).2.symm itemChars_ne_mapChars
  · exact known ((otherName, second) :: others) free (indent + 2) leftRest rightRest
      (leftAfter.outdented.mono (Nat.le_succ _)) (rightAfter.outdented.mono (Nat.le_succ _))
      (List.cons.inj same).2

theorem itemsKnown_nil : ItemsKnown [] := by
  intro rights free indent leftRest rightRest leftAfter rightAfter same
  cases rights with
  | nil => exact .inl ⟨rfl, same⟩
  | cons second others =>
      change leftRest = _ at same
      rw [itemChars, List.append_assoc, List.append_assoc] at same
      exact absurd same (leftAfter.noItem _)

theorem itemsKnown_cons (node : NodeKnown first) (known : ItemsKnown items) :
    ItemsKnown (first :: items) := by
  intro rights free indent leftRest rightRest leftAfter rightAfter same
  cases rights with
  | nil =>
      change _ = rightRest at same
      rw [itemChars, List.append_assoc, List.append_assoc] at same
      exact absurd same.symm (rightAfter.noItem _)
  | cons second others =>
      obtain ⟨here, behind⟩ := free
      simp only [itemChars, List.append_assoc, List.cons_append, List.append_cancel_left_eq,
        List.cons.injEq, true_and] at same
      have out {rest : List Char} (after : AfterValue indent rest) (items : List View) :
          Outdented (indent + 2) (itemChars indent items ++ rest) :=
        (outdented_itemChars items after.outdented).mono (Nat.le_succ _)
      rcases node second here (indent + 2) _ _ (out leftAfter items) (out rightAfter others) same with
        ⟨rfl, rests⟩ | agreed
      · exact (known others behind indent leftRest rightRest leftAfter rightAfter rests).cons_item first
      · obtain rfl := eq_nil_of_blank_itemChars agreed.1
        obtain rfl := eq_nil_of_blank_itemChars agreed.2.1
        exact Agree.item (.inr agreed)

theorem entriesKnown_nil : EntriesKnown [] := by
  intro rights free indent leftRest rightRest leftOut rightOut same
  cases rights with
  | nil => exact .inl ⟨rfl, same⟩
  | cons entry others =>
      change leftRest = _ at same
      exact absurd (same ▸ leftOut) (not_outdented_mapChars entry.1 entry.2 others)

theorem entryChars_unique {otherName : String} {otherValue : View} (node : NodeKnown value)
    (named : ValueKnown value) (free : otherValue.RecordFree) (leftAfter : AfterValue indent leftRest)
    (rightAfter : AfterValue indent rightRest)
    (same : entryChars indent name value ++ leftRest =
      entryChars indent otherName otherValue ++ rightRest) :
    name = otherName ∧ Agree value otherValue leftRest rightRest := by
  have nameLeaf : (View.string name).Leaf := trivial
  have otherLeaf : (View.string otherName).Leaf := trivial
  unfold entryChars at same
  split at same <;> rename_i short <;> split at same <;> rename_i otherShort
  · rw [List.append_assoc, List.append_assoc] at same
    obtain ⟨names, rests⟩ := leafChars_unique nameLeaf otherLeaf (form_of_isShortName short)
      (.colon (blankFollows_namedChars value indent leftRest))
      (.colon (blankFollows_namedChars otherValue indent rightRest)) same
    exact ⟨View.string.inj names, named otherValue free indent leftRest rightRest leftAfter rightAfter
      (List.cons.inj rests).2⟩
  · rw [List.append_assoc] at same
    exact absurd same (leafChars_ne_mark nameLeaf (by decide) _)
  · rw [List.append_assoc (stringChars indent otherName)] at same
    exact absurd same.symm (leafChars_ne_mark otherLeaf (by decide) _)
  · simp only [List.append_assoc, List.cons_append, List.cons.injEq, true_and] at same
    have out (rest : List Char) : Outdented (indent + 2) (spaces indent ++ ':' :: rest) :=
      outdented_spaces (by omega) (by decide) rfl
    rcases leaf_unique nameLeaf otherLeaf (out _) (out _) same with ⟨names, rests⟩ | ⟨blank, _⟩
    · have values := List.append_cancel_left rests
      simp only [List.cons.injEq, true_and] at values
      exact ⟨View.string.inj names, node otherValue free (indent + 2) leftRest rightRest
        (leftAfter.outdented.mono (Nat.le_succ _)) (rightAfter.outdented.mono (Nat.le_succ _)) values⟩
    · exact absurd (blank ':' (by simp)) (by decide)

theorem entriesKnown_cons (node : NodeKnown value) (named : ValueKnown value)
    (known : EntriesKnown entries) : EntriesKnown ((name, value) :: entries) := by
  intro rights free indent leftRest rightRest leftOut rightOut same
  cases rights with
  | nil =>
      change _ = rightRest at same
      exact absurd (same ▸ rightOut) (not_outdented_mapChars name value entries)
  | cons entry others =>
      obtain ⟨otherName, second⟩ := entry
      obtain ⟨here, behind⟩ := free
      simp only [mapChars_cons, List.append_assoc, List.append_cancel_left_eq] at same
      obtain ⟨rfl, agreed⟩ := entryChars_unique node named here (afterValue_mapChars entries leftOut)
        (afterValue_mapChars others rightOut) same
      rcases agreed with ⟨rfl, rests⟩ | agreed
      · exact (known others behind indent leftRest rightRest leftOut rightOut rests).cons_entry
          (name, value)
      · obtain rfl := eq_nil_of_blank_mapChars agreed.1
        obtain rfl := eq_nil_of_blank_mapChars agreed.2.1
        exact Agree.entry name (.inr agreed)

mutual

theorem nodeKnown : (view : View) → view.RecordFree → NodeKnown view
  | .list (first :: rest), free => nodeKnown_list (itemsKnown (first :: rest) free)
  | .map ((name, value) :: rest), free => nodeKnown_map (entriesKnown ((name, value) :: rest) free)
  | .null, _ | .bool _, _ | .number _, _ | .string _, _ | .list [], _ | .map [], _ =>
      nodeKnown_leaf trivial

theorem valueKnown : (view : View) → view.RecordFree → ValueKnown view
  | .list (first :: rest), free => valueKnown_list (itemsKnown (first :: rest) free)
  | .map ((name, value) :: rest), free => valueKnown_map (entriesKnown ((name, value) :: rest) free)
  | .null, _ | .bool _, _ | .number _, _ | .string _, _ | .list [], _ | .map [], _ =>
      valueKnown_leaf trivial

theorem itemsKnown : (items : List View) → ItemsRecordFree items → ItemsKnown items
  | [], _ => itemsKnown_nil
  | first :: rest, ⟨here, behind⟩ => itemsKnown_cons (nodeKnown first here) (itemsKnown rest behind)

theorem entriesKnown : (entries : List (String × View)) → EntriesRecordFree entries →
    EntriesKnown entries
  | [], _ => entriesKnown_nil
  | (_, value) :: rest, ⟨here, behind⟩ =>
      entriesKnown_cons (nodeKnown value here) (valueKnown value here) (entriesKnown rest behind)

end

end Known

section Alike

variable {name : String}

theorem itemChars_append (front : List View) (last : View) :
    itemChars indent (front ++ [last]) =
      itemChars indent front ++ (spaces indent ++ '-' :: ' ' :: last.nodeChars (indent + 2)) := by
  induction front with
  | nil => simp [itemChars]
  | cons first others ih => simp only [List.cons_append, itemChars, ih, List.append_assoc]

theorem mapChars_append (front : List (String × View)) (name : String) (last : View) :
    mapChars indent (front ++ [(name, last)]) =
      mapChars indent front ++ (spaces indent ++ entryChars indent name last) := by
  induction front with
  | nil => simp [mapChars, entryChars]
  | cons first others ih => simp only [List.cons_append, mapChars, ih, List.append_assoc]

theorem trimmed_itemChars (front : List View)
    (same : trimmed (left.nodeChars (indent + 2)) = trimmed (right.nodeChars (indent + 2))) :
    trimmed (itemChars indent (front ++ [left])) = trimmed (itemChars indent (front ++ [right])) := by
  rw [itemChars_append, itemChars_append]
  exact trimmed_congr _ (trimmed_congr _ (trimmed_congr ['-', ' '] same))

theorem trimmed_entryChars (name : String)
    (nodes : trimmed (left.nodeChars (indent + 2)) = trimmed (right.nodeChars (indent + 2)))
    (values : trimmed (left.namedChars indent) = trimmed (right.namedChars indent)) :
    trimmed (entryChars indent name left) = trimmed (entryChars indent name right) := by
  unfold entryChars
  split
  · exact trimmed_congr _ (trimmed_congr [':'] values)
  · exact trimmed_congr _ (trimmed_congr [':', ' '] nodes)

theorem trimmed_mapChars (front : List (String × View))
    (same : trimmed (entryChars indent name left) = trimmed (entryChars indent name right)) :
    trimmed (mapChars indent (front ++ [(name, left)])) =
      trimmed (mapChars indent (front ++ [(name, right)])) := by
  rw [mapChars_append, mapChars_append]
  exact trimmed_congr _ (trimmed_congr _ same)

theorem trimmed_leafChars {left right : String} (leftKeeps : KeepsEnd left)
    (rightKeeps : KeepsEnd right)
    (same : Command.trimLineFeeds left = Command.trimLineFeeds right) (indent : Nat) :
    trimmed (endLine ((View.string left).leafChars indent)) =
      trimmed (endLine ((View.string right).leafChars indent)) := by
  obtain ⟨block, sign⟩ := leftKeeps
  obtain ⟨otherBlock, otherSign⟩ := rightKeeps
  rw [trimmed_endLine, trimmed_endLine, leafChars, leafChars, stringChars, stringChars, block,
    otherBlock]
  exact trimmed_block (formOf_block block) (formOf_block otherBlock) (sign.trans otherSign.symm)
    (String.ofList_inj.mp same)

theorem EndAlike.trimmed_eq (alike : left.EndAlike right) : ∀ indent,
    trimmed (left.nodeChars indent) = trimmed (right.nodeChars indent) ∧
      trimmed (left.namedChars indent) = trimmed (right.namedChars indent) := by
  induction alike with
  | string leftKeeps rightKeeps same =>
      intro indent
      exact ⟨trimmed_leafChars leftKeeps rightKeeps same indent,
        trimmed_congr [' '] (trimmed_leafChars leftKeeps rightKeeps same (indent + 2))⟩
  | list front last ih =>
      intro indent
      have last := (ih (indent + 2)).1
      cases front with
      | nil =>
          refine ⟨?_, trimmed_congr ['\n'] (trimmed_itemChars [] last)⟩
          rw [List.nil_append, List.nil_append, nodeChars_list, nodeChars_list, itemChars,
            List.append_nil, List.append_nil]
          exact trimmed_congr ['-', ' '] last
      | cons first others =>
          refine ⟨?_, trimmed_congr ['\n'] (trimmed_itemChars (first :: others) last)⟩
          rw [List.cons_append, List.cons_append, nodeChars_list, nodeChars_list]
          exact trimmed_congr ['-', ' '] (trimmed_congr _ (trimmed_itemChars others last))
  | map front name last ih =>
      intro indent
      have last (indent : Nat) := trimmed_entryChars name (ih (indent + 2)).1 (ih indent).2
      cases front with
      | nil =>
          refine ⟨?_, trimmed_congr ['\n'] (trimmed_mapChars [] (last (indent + 2)))⟩
          rw [List.nil_append, List.nil_append, nodeChars_map, nodeChars_map, mapChars,
            List.append_nil, List.append_nil]
          exact last indent
      | cons first others =>
          refine ⟨?_, trimmed_congr ['\n'] (trimmed_mapChars (first :: others) (last (indent + 2)))⟩
          rw [List.cons_append, List.cons_append, nodeChars_map, nodeChars_map]
          exact trimmed_congr _ (trimmed_mapChars others (last indent))

end Alike

section Documents

theorem yamlChars_leaf (isLeaf : leaf.Leaf) : leaf.yamlChars = endLine (leaf.leafChars 2) := by
  cases leaf with
  | list items => cases items <;> first | rfl | exact isLeaf.elim
  | map entries => cases entries <;> first | rfl | exact isLeaf.elim
  | record => exact isLeaf.elim
  | _ => rfl

theorem yamlChars_eq_nodeChars (free : left.RecordFree) (branches : ¬ left.Leaf) :
    left.yamlChars = left.nodeChars 0 := by
  rcases cases_of_recordFree left free with isLeaf | ⟨first, rest, rfl⟩ | ⟨name, first, rest, rfl⟩
  · exact absurd isLeaf branches
  · rfl
  · rfl

theorem yamlChars_unique (leftFree : left.RecordFree) (rightFree : right.RecordFree)
    (leftBlank : Blank leftRest) (rightBlank : Blank rightRest)
    (same : left.yamlChars ++ leftRest = right.yamlChars ++ rightRest) :
    Agree left right leftRest rightRest := by
  by_cases leftLeaf : left.Leaf <;> by_cases rightLeaf : right.Leaf
  · rw [yamlChars_leaf leftLeaf, yamlChars_leaf rightLeaf] at same
    exact leaf_unique leftLeaf rightLeaf (.inl leftBlank) (.inl rightBlank) same
  · rw [yamlChars_leaf leftLeaf, yamlChars_eq_nodeChars rightFree rightLeaf] at same
    exact absurd same (leafChars_ne_nodeChars leftLeaf rightFree rightLeaf 2)
  · rw [yamlChars_leaf rightLeaf, yamlChars_eq_nodeChars leftFree leftLeaf] at same
    exact absurd same.symm (leafChars_ne_nodeChars rightLeaf leftFree leftLeaf 2)
  · rw [yamlChars_eq_nodeChars leftFree leftLeaf, yamlChars_eq_nodeChars rightFree rightLeaf] at same
    exact nodeKnown left leftFree right rightFree 0 leftRest rightRest (.inl leftBlank)
      (.inl rightBlank) same

theorem EndAlike.yamlChars (alike : left.EndAlike right) (leftFree : left.RecordFree)
    (rightFree : right.RecordFree) : trimmed left.yamlChars = trimmed right.yamlChars := by
  by_cases leftLeaf : left.Leaf
  · cases alike with
    | string leftKeeps rightKeeps same => exact trimmed_leafChars leftKeeps rightKeeps same 2
    | list front last => cases front <;> exact leftLeaf.elim
    | map front name last => cases front <;> exact leftLeaf.elim
  · have rightBranches : ¬ right.Leaf := by
      cases alike with
      | string => exact absurd trivial leftLeaf
      | list front last => cases front <;> exact not_false
      | map front name last => cases front <;> exact not_false
    rw [yamlChars_eq_nodeChars leftFree leftLeaf, yamlChars_eq_nodeChars rightFree rightBranches]
    exact (alike.trimmed_eq 0).1

/-- Without the line feeds at their ends, documents are the same if and only if the views are, or
are alike but for the line feeds at their own ends. -/
theorem trimmed_yamlChars_iff (leftFree : left.RecordFree) (rightFree : right.RecordFree) :
    trimmed left.yamlChars = trimmed right.yamlChars ↔ left = right ∨ left.EndAlike right := by
  constructor
  · intro same
    obtain ⟨leftFeeds, rightFeeds, leftBlank, rightBlank, filled⟩ := exists_fill same
    rcases yamlChars_unique leftFree rightFree leftBlank rightBlank filled with
      ⟨equal, _⟩ | ⟨_, _, alike⟩
    · exact .inl equal
    · exact .inr alike
  · rintro (rfl | alike)
    · rfl
    · exact alike.yamlChars leftFree rightFree

end Documents

end View

end Reshape
