import Reshape.Json.Reader
import Reshape.Proofs.Json.Scan
/-!
Reading compact JSON text back. The tokens of a view drive the reader to the node of the view,
as long as no more containers are open than the reader allows, and the node stands for the data
that the view shows. So a value without floats is read back from its text, with a map in place
of each of its records.
-/

namespace Reshape

namespace Entries

variable {α : Type}

theorem foldl_insert_of_distinct (done : Entries α) {pairs : Entries α}
    (distinct : Distinct (done ++ pairs)) :
    pairs.foldl (fun entries pair => insert pair.1 pair.2 entries) done = done ++ pairs := by
  induction pairs generalizing done with
  | nil => simp
  | cons pair rest ih =>
      have fresh : pair.1 ∉ names done := by
        rw [Distinct, names, List.map_append, List.nodup_append] at distinct
        intro listed
        exact distinct.2.2 pair.1 listed pair.1 (by simp) rfl
      rw [List.foldl_cons, insert_of_not_mem fresh, ih _ (by simpa using distinct)]
      simp

theorem ofPairs_of_distinct {pairs : Entries α} (distinct : Distinct pairs) :
    ofPairs pairs = pairs := foldl_insert_of_distinct [] distinct

end Entries

namespace View

mutual

def node : View → Json.Node
  | .null => .null
  | .bool value => .bool value
  | .number value => .number value
  | .string value => .string value
  | .list items => .list (nodeItems items)
  | .map entries => .map (nodeEntries entries)
  | .record _ entries => .map (nodeEntries entries)

def nodeItems : List View → List Json.Node
  | [] => []
  | item :: rest => item.node :: nodeItems rest

def nodeEntries : List (String × View) → List (String × Json.Node)
  | [] => []
  | (name, item) :: rest => (name, item.node) :: nodeEntries rest

end

mutual

def depth : View → Nat
  | .list items => depthOfItems items + 1
  | .map entries | .record _ entries => depthOfEntries entries + 1
  | _ => 0

def depthOfItems : List View → Nat
  | [] => 0
  | item :: rest => max item.depth (depthOfItems rest)

def depthOfEntries : List (String × View) → Nat
  | [] => 0
  | (_, item) :: rest => max item.depth (depthOfEntries rest)

end

mutual

theorem value_node : (view : View) → view.WellFormed → view.node.value = view.data
  | .list items, each => by rw [node, Json.Node.value, data, itemValues_nodeItems items each]
  | .map entries, ⟨distinct, each⟩ => by
      rw [node, Json.Node.value, data, entryValues_nodeEntries entries each,
        Entries.ofPairs_of_distinct (distinct_dataEntries distinct)]
  | .record _ entries, ⟨distinct, each⟩ => by
      rw [node, Json.Node.value, data, entryValues_nodeEntries entries each,
        Entries.ofPairs_of_distinct (distinct_dataEntries distinct)]
  | .null, _ | .bool _, _ | .number _, _ | .string _, _ => rfl

theorem itemValues_nodeItems : (items : List View) → AllWellFormed items →
    Json.Node.itemValues (nodeItems items) = dataItems items
  | [], _ => rfl
  | view :: rest, ⟨first, others⟩ => by
      rw [nodeItems, Json.Node.itemValues, dataItems, value_node view first,
        itemValues_nodeItems rest others]

theorem entryValues_nodeEntries : (entries : List (String × View)) → EntriesWellFormed entries →
    Json.Node.entryValues (nodeEntries entries) = dataEntries entries
  | [], _ => rfl
  | (name, view) :: rest, ⟨first, others⟩ => by
      rw [nodeEntries, Json.Node.entryValues, dataEntries, value_node view first,
        entryValues_nodeEntries rest others]

end

end View

namespace Json

namespace Reading

variable {limit : Nat} {opened outer : List Frame}

theorem step_itemOrEnd {token : Token} (begins : token ≠ .closeList) :
    step limit { expected := .itemOrEnd, opened } token =
      step limit { expected := .value, opened } token := by
  unfold step
  split <;> simp_all

theorem step_open (within : opened.length < limit) :
    step limit { expected := .value, opened } .openList =
        some { expected := .itemOrEnd, opened := .list [] :: opened } ∧
      step limit { expected := .value, opened } .openMap =
        some { expected := .nameOrEnd, opened := .map [] :: opened } := by
  simp [step, startValue, enter, within]

theorem tokens_cons (view : View) :
    ∃ first rest, tokens view = first :: rest ∧ first ≠ .closeList := by
  cases view <;> exact ⟨_, _, rfl, by simp⟩

theorem foldlM_itemOrEnd (item : View) (rest : List View) :
    (tokensOfItems (item :: rest)).foldlM (step limit) { expected := .itemOrEnd, opened } =
      (tokensOfItems (item :: rest)).foldlM (step limit) { expected := .value, opened } := by
  obtain ⟨first, more, spelled, begins⟩ := tokens_cons item
  cases rest <;> simp [tokensOfItems, spelled, List.foldlM_cons, step_itemOrEnd begins]

theorem foldlM_nameOrEnd (entry : String × View) (rest : List (String × View)) :
    (tokensOfEntries (entry :: rest)).foldlM (step limit) { expected := .nameOrEnd, opened } =
      (tokensOfEntries (entry :: rest)).foldlM (step limit) { expected := .name, opened } := by
  obtain ⟨name, item⟩ := entry
  cases rest <;> rfl

theorem foldlM_name (name : String) (entries : List (String × Node)) (rest : List Token) :
    (.string name :: .colon :: rest).foldlM (step limit)
        { expected := .name, opened := .map entries :: outer } =
      rest.foldlM (step limit) { expected := .value, opened := .entry entries name :: outer } := rfl

mutual

/-- The tokens of a view hand its node to the innermost open container. -/
theorem foldlM_tokens : (view : View) → (opened : List Frame) →
    opened.length + view.depth ≤ limit →
    (tokens view).foldlM (step limit) { expected := .value, opened } =
      some (complete view.node opened)
  | .null, _, _ | .bool _, _, _ | .number _, _, _ | .string _, _, _ => rfl
  | .list items, opened, within => by
      rw [View.depth] at within
      rw [tokens, List.foldlM_cons, (step_open (by omega)).1]
      exact foldlM_list items opened (by omega)
  | .map entries, opened, within | .record _ entries, opened, within => by
      rw [View.depth] at within
      rw [tokens, List.foldlM_cons, (step_open (by omega)).2]
      exact foldlM_map entries opened (by omega)

theorem foldlM_list : (items : List View) → (opened : List Frame) →
    opened.length + 1 + View.depthOfItems items ≤ limit →
    (tokensOfItems items ++ [Token.closeList]).foldlM (step limit)
        { expected := .itemOrEnd, opened := .list [] :: opened } =
      some (complete (.list (View.nodeItems items)) opened)
  | [], _, _ => rfl
  | item :: rest, opened, within => by
      rw [List.foldlM_append, foldlM_itemOrEnd, foldlM_items (item :: rest) (by simp) [] opened within]
      simp [step]

theorem foldlM_items : (items : List View) → items ≠ [] → (done : List Node) →
    (opened : List Frame) → opened.length + 1 + View.depthOfItems items ≤ limit →
    (tokensOfItems items).foldlM (step limit) { expected := .value, opened := .list done :: opened } =
      some { expected := .separator,
             opened := .list ((View.nodeItems items).reverse ++ done) :: opened }
  | [item], _, done, opened, within => by
      rw [View.depthOfItems] at within
      exact foldlM_tokens item (.list done :: opened) (by simp only [List.length_cons]; omega)
  | item :: next :: rest, _, done, opened, within => by
      rw [View.depthOfItems] at within
      have first := foldlM_tokens item (.list done :: opened)
        (by simp only [List.length_cons]; omega)
      have others := foldlM_items (next :: rest) (by simp) (item.node :: done) opened (by omega)
      rw [tokensOfItems, List.foldlM_append, first, View.nodeItems, List.reverse_cons,
        List.append_assoc]
      · exact others
      · simp

theorem foldlM_map : (entries : List (String × View)) → (opened : List Frame) →
    opened.length + 1 + View.depthOfEntries entries ≤ limit →
    (tokensOfEntries entries ++ [Token.closeMap]).foldlM (step limit)
        { expected := .nameOrEnd, opened := .map [] :: opened } =
      some (complete (.map (View.nodeEntries entries)) opened)
  | [], _, _ => rfl
  | entry :: rest, opened, within => by
      rw [List.foldlM_append, foldlM_nameOrEnd,
        foldlM_entries (entry :: rest) (by simp) [] opened within]
      simp [step]

theorem foldlM_entries : (entries : List (String × View)) → entries ≠ [] →
    (done : List (String × Node)) → (opened : List Frame) →
    opened.length + 1 + View.depthOfEntries entries ≤ limit →
    (tokensOfEntries entries).foldlM (step limit)
        { expected := .name, opened := .map done :: opened } =
      some { expected := .separator,
             opened := .map ((View.nodeEntries entries).reverse ++ done) :: opened }
  | [(name, item)], _, done, opened, within => by
      rw [View.depthOfEntries] at within
      exact foldlM_tokens item (.entry done name :: opened)
        (by simp only [List.length_cons]; omega)
  | (name, item) :: next :: rest, _, done, opened, within => by
      rw [View.depthOfEntries] at within
      have first := foldlM_tokens item (.entry done name :: opened)
        (by simp only [List.length_cons]; omega)
      have others := foldlM_entries (next :: rest) (by simp) ((name, item.node) :: done) opened
        (by omega)
      rw [tokensOfEntries, foldlM_name, List.foldlM_append, first, View.nodeEntries,
        List.reverse_cons, List.append_assoc]
      · exact others
      · simp

end

end Reading

theorem ofTokens?_tokens {limit : Nat} {view : View} (shallow : view.depth ≤ limit) :
    ofTokens? limit (tokens view) = some view.node := by
  have run := Reading.foldlM_tokens view [] (by simpa using shallow)
  rw [ofTokens?, Reading.start, run]
  rfl

theorem scan?_text {view : View} (floatFree : view.FloatFree) :
    Token.scan? view.text.toList = some (tokens view) := by
  have spelled := spells_chars view floatFree [] (by simp [Bounded])
  rw [View.text, String.toList_ofList, ← List.append_nil view.chars, spelled, Token.scan?]
  simp

theorem readWithin?_text {limit : Nat} {view : View} (floatFree : view.FloatFree)
    (shallow : view.depth ≤ limit) : Node.readWithin? limit view.text = some view.node := by
  rw [Node.readWithin?, scan?_text floatFree]
  exact ofTokens?_tokens shallow

end Json

namespace Value

def node (value : Value) : Json.Node := value.view.node

end Value

end Reshape
