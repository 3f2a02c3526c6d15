import Reshape.Json.Pretty
import Reshape.Proofs.Json.Numbers
import Reshape.Proofs.Json.RoundTrip
import Reshape.Proofs.Value.RecordFree

namespace Reshape.Json

/-- The blanks between tokens: at the beginning of a line of some depth, and behind a colon. -/
structure Spacing where
  line : (depth : Nat) → List Char
  gap : List Char
  blank_line : ∀ depth, ∀ character ∈ line depth, isBlank character
  blank_gap : ∀ character ∈ gap, isBlank character

namespace Spacing

def compact : Spacing where
  line _ := []
  gap := []
  blank_line := by simp
  blank_gap := by simp

def pretty : Spacing where
  line := newLine
  gap := [' ']
  blank_line := by
    intro depth character member
    simp only [newLine, List.mem_cons, List.mem_replicate] at member
    rcases member with rfl | ⟨_, rfl⟩ <;> rfl
  blank_gap := List.forall_mem_singleton.mpr rfl

mutual

/-- JSON text with some blanks between its tokens. -/
def chars (spacing : Spacing) (depth : Nat) : View → List Char
  | .list [] => ['[', ']']
  | .list (first :: rest) =>
      '[' :: (spacing.line (depth + 1) ++ (spacing.chars (depth + 1) first ++
        (spacing.itemChars (depth + 1) rest ++ (spacing.line depth ++ [']']))))
  | .map entries => spacing.mapChars depth entries
  | .record _ entries => spacing.mapChars depth entries
  | view => view.chars

def mapChars (spacing : Spacing) (depth : Nat) : List (String × View) → List Char
  | [] => ['\x7b', '\x7d']
  | (name, first) :: rest =>
      '\x7b' :: (spacing.line (depth + 1) ++ (quoted name ++ ':' :: (spacing.gap ++
        (spacing.chars (depth + 1) first ++
          (spacing.entryChars (depth + 1) rest ++ (spacing.line depth ++ ['\x7d']))))))

def itemChars (spacing : Spacing) (depth : Nat) : List View → List Char
  | [] => []
  | item :: rest =>
      ',' :: (spacing.line depth ++ (spacing.chars depth item ++ spacing.itemChars depth rest))

def entryChars (spacing : Spacing) (depth : Nat) : List (String × View) → List Char
  | [] => []
  | (name, item) :: rest =>
      ',' :: (spacing.line depth ++ (quoted name ++ ':' :: (spacing.gap ++
        (spacing.chars depth item ++ spacing.entryChars depth rest))))

end

theorem charsOfItems_cons (first : View) (rest : List View) :
    View.charsOfItems (first :: rest) =
      first.chars ++ rest.flatMap fun item => ',' :: item.chars := by
  induction rest generalizing first with
  | nil => simp [View.charsOfItems]
  | cons next others ih =>
      rw [View.charsOfItems, ih next]
      · rfl
      · simp

theorem charsOfEntries_cons (name : String) (first : View) (rest : List (String × View)) :
    View.charsOfEntries ((name, first) :: rest) = quoted name ++ ':' :: (first.chars ++
      rest.flatMap fun (name, item) => ',' :: (quoted name ++ ':' :: item.chars)) := by
  induction rest generalizing name first with
  | nil => simp [View.charsOfEntries]
  | cons next others ih =>
      rw [View.charsOfEntries, ih next.1 next.2]
      · simp
      · simp

mutual

theorem chars_compact : (view : View) → (depth : Nat) → compact.chars depth view = view.chars
  | .list [], _ => rfl
  | .list (first :: rest), depth => by
      rw [chars, chars_compact first, itemChars_compact rest, View.chars, charsOfItems_cons]
      simp [compact]
  | .map entries, depth => mapChars_compact entries depth
  | .record _ entries, depth => mapChars_compact entries depth
  | .null, _ | .bool true, _ | .bool false, _ | .number _, _ | .string _, _ => rfl

theorem itemChars_compact : (items : List View) → (depth : Nat) →
    compact.itemChars depth items = items.flatMap fun item => ',' :: item.chars
  | [], _ => rfl
  | item :: rest, depth => by
      rw [itemChars, chars_compact item, itemChars_compact rest]
      rfl

theorem mapChars_compact : (entries : List (String × View)) → (depth : Nat) →
    compact.mapChars depth entries = '\x7b' :: View.charsOfEntries entries ++ ['\x7d']
  | [], _ => rfl
  | (name, first) :: rest, depth => by
      rw [mapChars, chars_compact first, entryChars_compact rest, charsOfEntries_cons]
      simp [compact]

theorem entryChars_compact : (entries : List (String × View)) → (depth : Nat) →
    compact.entryChars depth entries =
      entries.flatMap fun (name, item) => ',' :: (quoted name ++ ':' :: item.chars)
  | [], _ => rfl
  | (name, item) :: rest, depth => by
      rw [entryChars, chars_compact item, entryChars_compact rest]
      simp [compact]

end

mutual

theorem chars_pretty : (view : View) → (depth : Nat) →
    pretty.chars depth view = view.prettyChars depth
  | .list [], _ => rfl
  | .list (first :: rest), depth => by
      rw [chars, chars_pretty first, itemChars_pretty rest, View.prettyChars]
      simp [pretty]
  | .map entries, depth => mapChars_pretty entries depth
  | .record _ entries, depth => mapChars_pretty entries depth
  | .null, _ | .bool _, _ | .number _, _ | .string _, _ => rfl

theorem itemChars_pretty : (items : List View) → (depth : Nat) →
    pretty.itemChars depth items = View.prettyItems depth items
  | [], _ => rfl
  | item :: rest, depth => by
      rw [itemChars, chars_pretty item, itemChars_pretty rest, View.prettyItems]
      simp [pretty]

theorem mapChars_pretty : (entries : List (String × View)) → (depth : Nat) →
    pretty.mapChars depth entries = View.prettyMap depth entries
  | [], _ => rfl
  | (name, first) :: rest, depth => by
      rw [mapChars, chars_pretty first, entryChars_pretty rest, View.prettyMap]
      simp [pretty]

theorem entryChars_pretty : (entries : List (String × View)) → (depth : Nat) →
    pretty.entryChars depth entries = View.prettyEntries depth entries
  | [], _ => rfl
  | (name, item) :: rest, depth => by
      rw [entryChars, chars_pretty item, entryChars_pretty rest, View.prettyEntries]
      simp [pretty]

end

end Spacing

theorem Spells.blanks {blanks text : List Char} {tokens : List Token}
    (blank : ∀ character ∈ blanks, isBlank character) (spelled : Spells text tokens) :
    Spells (blanks ++ text) tokens := by
  induction blanks with
  | nil => exact spelled
  | cons character others ih =>
      obtain ⟨here, behind⟩ := List.forall_mem_cons.mp blank
      intro rest bounded
      rw [List.cons_append, List.cons_append, Token.scan?.eq_def]
      simp only [here, ↓reduceIte]
      exact ih behind rest bounded

theorem bounded_blanks {blanks rest : List Char} (blank : ∀ character ∈ blanks, isBlank character)
    (bounded : Bounded rest) : Bounded (blanks ++ rest) := by
  cases blanks with
  | nil => exact bounded
  | cons character others =>
      have first := blank character List.mem_cons_self
      rintro _ ⟨⟩
      simp only [isBlank, Bool.or_eq_true, beq_iff_eq] at first
      rcases first with ((rfl | rfl) | rfl) | rfl <;> decide

theorem tokensOfItems_cons (first : View) (rest : List View) :
    tokensOfItems (first :: rest) =
      tokens first ++ rest.flatMap fun item => .comma :: tokens item := by
  induction rest generalizing first with
  | nil => simp [tokensOfItems]
  | cons next others ih =>
      rw [tokensOfItems, ih next]
      · rfl
      · simp

theorem tokensOfEntries_cons (name : String) (first : View) (rest : List (String × View)) :
    tokensOfEntries ((name, first) :: rest) = .string name :: .colon :: (tokens first ++
      rest.flatMap fun (name, item) => .comma :: .string name :: .colon :: tokens item) := by
  induction rest generalizing name first with
  | nil => simp [tokensOfEntries]
  | cons next others ih =>
      rw [tokensOfEntries, ih next.1 next.2]
      · simp
      · simp

namespace Spacing

variable (spacing : Spacing)

theorem bounded_itemChars {rest : List Char} (bounded : Bounded rest) (depth : Nat)
    (items : List View) : Bounded (spacing.itemChars depth items ++ rest) := by
  cases items with
  | nil => exact bounded
  | cons => exact bounded_cons (by decide) _

theorem bounded_entryChars {rest : List Char} (bounded : Bounded rest) (depth : Nat)
    (entries : List (String × View)) : Bounded (spacing.entryChars depth entries ++ rest) := by
  cases entries with
  | nil => exact bounded
  | cons => exact bounded_cons (by decide) _

theorem spells_end {text : List Char} {tokens : List Token} {closing : Char} {token : Token}
    (body : Spells text tokens) (mark : closing ∈ [']', '\x7d'])
    (read : ∀ rest, Token.next? (closing :: rest) = some (token, rest)) (depth : Nat) :
    Spells (text ++ (spacing.line depth ++ [closing])) (tokens ++ [token]) := by
  have visible : isBlank closing = false := by
    simp only [List.mem_cons, List.not_mem_nil, or_false] at mark
    rcases mark with rfl | rfl <;> rfl
  refine body.append (.blanks (spacing.blank_line depth) (.mark visible read .nil)) ?_
  intro rest bounded
  rw [List.append_assoc]
  exact bounded_blanks (spacing.blank_line depth)
    (bounded_cons (List.mem_cons_of_mem ',' mark) rest)

mutual

theorem spells : (view : View) → (depth : Nat) → Spells (spacing.chars depth view) (tokens view)
  | .null, _ => .of_next? (by decide) fun _ _ => rfl
  | .bool true, _ => .of_next? (by decide) fun _ _ => rfl
  | .bool false, _ => .of_next? (by decide) fun _ _ => rfl
  | .number number, _ => spells_number number
  | .string value, _ => by
      have body := Spells.nil.quoted value
      rwa [List.append_nil] at body
  | .list [], _ => .mark (by decide) (fun _ => rfl) (.mark (by decide) (fun _ => rfl) .nil)
  | .list (first :: rest), depth => by
      have items := (spells first (depth + 1)).append (spells_items rest (depth + 1))
        fun _ bounded => spacing.bounded_itemChars bounded (depth + 1) rest
      have all : Spells (_ ++ (_ ++ [']'])) (_ ++ [.closeList]) :=
        spacing.spells_end items (by decide) (fun _ => rfl) depth
      rw [tokens, tokensOfItems_cons]
      rw [List.append_assoc] at all
      exact .mark (by decide) (fun _ => rfl) (.blanks (spacing.blank_line (depth + 1)) all)
  | .map entries, depth => spells_map entries depth
  | .record _ entries, depth => spells_map entries depth

theorem spells_items : (items : List View) → (depth : Nat) →
    Spells (spacing.itemChars depth items) (items.flatMap fun item => .comma :: tokens item)
  | [], _ => .nil
  | item :: rest, depth =>
      .mark (by decide) (fun _ => rfl) <| .blanks (spacing.blank_line depth) <|
        (spells item depth).append (spells_items rest depth)
          fun _ bounded => spacing.bounded_itemChars bounded depth rest

theorem spells_map : (entries : List (String × View)) → (depth : Nat) →
    Spells (spacing.mapChars depth entries) (.openMap :: (tokensOfEntries entries ++ [.closeMap]))
  | [], _ => .mark (by decide) (fun _ => rfl) (.mark (by decide) (fun _ => rfl) .nil)
  | (name, first) :: rest, depth => by
      have entries := (spells first (depth + 1)).append (spells_entries rest (depth + 1))
        fun _ bounded => spacing.bounded_entryChars bounded (depth + 1) rest
      have all : Spells (_ ++ (_ ++ ['\x7d'])) (_ ++ [.closeMap]) :=
        spacing.spells_end entries (by decide) (fun _ => rfl) depth
      rw [tokensOfEntries_cons]
      rw [List.append_assoc] at all
      exact .mark (by decide) (fun _ => rfl) <| .blanks (spacing.blank_line (depth + 1)) <|
        .quoted name <| .mark (by decide) (fun _ => rfl) <| .blanks spacing.blank_gap all

theorem spells_entries : (entries : List (String × View)) → (depth : Nat) →
    Spells (spacing.entryChars depth entries)
      (entries.flatMap fun (name, item) => .comma :: .string name :: .colon :: tokens item)
  | [], _ => .nil
  | (name, item) :: rest, depth =>
      .mark (by decide) (fun _ => rfl) <| .blanks (spacing.blank_line depth) <|
        .quoted name <| .mark (by decide) (fun _ => rfl) <| .blanks spacing.blank_gap <|
          (spells item depth).append (spells_entries rest depth)
            fun _ bounded => spacing.bounded_entryChars bounded depth rest

end

end Spacing

/-- The reader takes the node of a view from its tokens, so the tokens tell nodes apart. -/
theorem node_eq_of_tokens_eq {left right : View} (same : tokens left = tokens right) :
    left.node = right.node := by
  have first : ofTokens? (max left.depth right.depth) (tokens left) = some left.node :=
    ofTokens?_tokens (Nat.le_max_left _ _)
  have second : ofTokens? (max left.depth right.depth) (tokens right) = some right.node :=
    ofTokens?_tokens (Nat.le_max_right _ _)
  rw [same, second] at first
  exact (Option.some.inj first).symm

mutual

/-- The view without records that a node spells. -/
def Node.view : Node → View
  | .null => .null
  | .bool value => .bool value
  | .number value => .number value
  | .string text => .string text
  | .list items => .list (viewItems items)
  | .map entries => .map (viewEntries entries)

def Node.viewItems : List Node → List View
  | [] => []
  | item :: rest => item.view :: viewItems rest

def Node.viewEntries : List (String × Node) → List (String × View)
  | [] => []
  | (name, item) :: rest => (name, item.view) :: viewEntries rest

end

mutual

theorem view_node : (view : View) → view.RecordFree → view.node.view = view
  | .list items, free => congrArg View.list (viewItems_nodeItems items free)
  | .map entries, free => congrArg View.map (viewEntries_nodeEntries entries free)
  | .null, _ | .bool _, _ | .number _, _ | .string _, _ => rfl

theorem viewItems_nodeItems : (items : List View) → View.ItemsRecordFree items →
    Node.viewItems (View.nodeItems items) = items
  | [], _ => rfl
  | item :: rest, ⟨first, others⟩ => by
      rw [View.nodeItems, Node.viewItems, view_node item first, viewItems_nodeItems rest others]

theorem viewEntries_nodeEntries : (entries : List (String × View)) →
    View.EntriesRecordFree entries → Node.viewEntries (View.nodeEntries entries) = entries
  | [], _ => rfl
  | (name, item) :: rest, ⟨first, others⟩ => by
      rw [View.nodeEntries, Node.viewEntries, view_node item first,
        viewEntries_nodeEntries rest others]

end

theorem view_eq_of_tokens_eq {left right : View} (leftFree : left.RecordFree)
    (rightFree : right.RecordFree) (same : tokens left = tokens right) : left = right :=
  calc left = left.node.view := (view_node left leftFree).symm
    _ = right.node.view := congrArg Node.view (node_eq_of_tokens_eq same)
    _ = right := view_node right rightFree

section Unique

variable {left right : View} {leftBlanks rightBlanks : List Char}

theorem Spacing.scan?_chars (spacing : Spacing) (view : View) {blanks : List Char}
    (blank : ∀ character ∈ blanks, isBlank character) :
    Token.scan? (spacing.chars 0 view ++ blanks) = some (tokens view) := by
  have trailing : Spells blanks [] := by
    have spelled := Spells.nil.blanks blank
    rwa [List.append_nil] at spelled
  have spelled := (spacing.spells view 0).append trailing fun _ => bounded_blanks blank
  have scanned := spelled [] (by simp [Bounded])
  rw [List.append_nil, List.append_nil] at scanned
  rw [scanned, Token.scan?]
  simp

theorem Spacing.eq_of_chars_eq (spacing : Spacing) (leftFree : left.RecordFree)
    (rightFree : right.RecordFree) (leftBlank : ∀ character ∈ leftBlanks, isBlank character)
    (rightBlank : ∀ character ∈ rightBlanks, isBlank character)
    (same : spacing.chars 0 left ++ leftBlanks = spacing.chars 0 right ++ rightBlanks) :
    left = right := by
  have scanned := spacing.scan?_chars left leftBlank
  rw [same, spacing.scan?_chars right rightBlank] at scanned
  exact (view_eq_of_tokens_eq rightFree leftFree (Option.some.inj scanned)).symm

theorem eq_of_text_eq (leftFree : left.RecordFree) (rightFree : right.RecordFree)
    (leftBlank : ∀ character ∈ leftBlanks, isBlank character)
    (rightBlank : ∀ character ∈ rightBlanks, isBlank character)
    (same : left.text.toList ++ leftBlanks = right.text.toList ++ rightBlanks) : left = right := by
  rw [View.text, View.text, String.toList_ofList, String.toList_ofList,
    ← Spacing.chars_compact left 0, ← Spacing.chars_compact right 0] at same
  exact Spacing.compact.eq_of_chars_eq leftFree rightFree leftBlank rightBlank same

theorem eq_of_prettyText_eq (leftFree : left.RecordFree) (rightFree : right.RecordFree)
    (leftBlank : ∀ character ∈ leftBlanks, isBlank character)
    (rightBlank : ∀ character ∈ rightBlanks, isBlank character)
    (same : left.prettyText.toList ++ leftBlanks = right.prettyText.toList ++ rightBlanks) :
    left = right := by
  rw [View.prettyText, View.prettyText, String.toList_ofList, String.toList_ofList,
    ← Spacing.chars_pretty left 0, ← Spacing.chars_pretty right 0] at same
  exact Spacing.pretty.eq_of_chars_eq leftFree rightFree leftBlank rightBlank same

end Unique

end Reshape.Json
