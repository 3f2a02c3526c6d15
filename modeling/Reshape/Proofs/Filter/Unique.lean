import Reshape.Proofs.Filter.BuiltIn
import Reshape.Proofs.Value.Equivalence

namespace Reshape.Filter

section

variable [Record.Accessors] {items kept before : List Value} {item : Value}

/-- The items that equal none of the items in front of them, in their order. -/
def firstOfEach (items : List Value) : List Value :=
  (items.zipIdx.filter fun (item, position) =>
    (items.take position).all fun earlier => !earlier.same item).map (·.1)

def holds (items : List Value) (value : Value) : Bool := items.any (·.same value)

theorem holds_append_singleton (items : List Value) (item value : Value) :
    holds (items ++ [item]) value = (holds items value || item.same value) := by
  simp [holds]

theorem holds_cons (item : Value) (items : List Value) (value : Value) :
    holds (item :: items) value = (item.same value || holds items value) := rfl

theorem firstOfEach_sublist (items : List Value) : (firstOfEach items).Sublist items := by
  have part := (List.filter_sublist (l := items.zipIdx) (p := fun (item, position) =>
    (items.take position).all fun earlier => !earlier.same item)).map (·.1)
  rwa [List.zipIdx_map_fst] at part

theorem firsts_pairwise (apart : kept.Pairwise fun later earlier => ¬ earlier.same later)
    (items : List Value) : (firsts kept items).Pairwise fun earlier later => ¬ earlier.same later := by
  induction items generalizing kept with
  | nil => exact List.pairwise_reverse.mpr apart
  | cons item rest ih =>
      rw [firsts]
      apply ih
      split
      · exact apart
      · rename_i fresh
        refine .cons ?_ apart
        intro earlier member same
        exact fresh (List.any_eq_true.mpr ⟨earlier, member, same⟩)

theorem firsts_of_pairwise (apart : (kept.reverse ++ items).Pairwise fun earlier later =>
    ¬ earlier.same later) : firsts kept items = kept.reverse ++ items := by
  induction items generalizing kept with
  | nil => simp [firsts]
  | cons item rest ih =>
      have fresh : ¬ kept.any fun seen => seen.same item := by
        intro held
        obtain ⟨earlier, member, same⟩ := List.any_eq_true.mp held
        exact (List.pairwise_append.mp apart).2.2 earlier (List.mem_reverse.mpr member) item
          List.mem_cons_self same
      have next : (item :: kept).reverse ++ rest = kept.reverse ++ item :: rest := by simp
      rw [firsts, if_neg fresh, ih (next ▸ apart), next]

theorem holds_of_same {value : Value} (held : holds items item) (same : item.same value) :
    holds items value := by
  obtain ⟨found, member, equal⟩ := List.any_eq_true.mp held
  exact List.any_eq_true.mpr ⟨found, member, Value.same_trans equal same⟩

theorem holds_step (represents : ∀ value, holds kept value = holds before value) (value : Value) :
    holds (if holds kept item then kept else item :: kept) value =
      holds (before ++ [item]) value := by
  rw [holds_append_singleton, ← represents]
  split
  · rename_i held
    cases same : item.same value with
    | false => simp
    | true => simp [holds_of_same held same]
  · rw [holds_cons, Bool.or_comm]

/-- The kept items hold what the items in front hold, so both decide alike on the items that
follow. -/
theorem firsts_eq (represents : ∀ value, holds kept value = holds before value) :
    firsts kept items = kept.reverse ++
      ((items.zipIdx before.length).filter fun (item, position) =>
        ((before ++ items).take position).all fun earlier => !earlier.same item).map (·.1) := by
  induction items generalizing kept before with
  | nil => simp [firsts]
  | cons item rest ih =>
      have onward : firsts (if holds kept item then kept else item :: kept) rest = _ :=
        ih (holds_step represents)
      have front : ((before ++ item :: rest).take before.length).all (fun earlier =>
          !earlier.same item) = !holds kept item := by
        rw [represents, List.take_left, holds, List.not_any_eq_all_not]
      change firsts (if holds kept item then kept else item :: kept) rest = _
      rw [onward, List.zipIdx_cons, List.filter_cons]
      simp only [front, List.append_assoc, List.singleton_append, List.length_append,
        List.length_singleton]
      cases holds kept item <;> simp

theorem firsts_eq_firstOfEach (items : List Value) : firsts [] items = firstOfEach items :=
  firsts_eq (fun _ => rfl : ∀ value, holds [] value = holds [] value)

theorem holds_firsts (represents : ∀ value, holds kept value = holds before value) (value : Value) :
    holds (firsts kept items) value = holds (before ++ items) value := by
  induction items generalizing kept before with
  | nil => simpa [firsts, holds] using represents value
  | cons item rest ih =>
      change holds (firsts (if holds kept item then kept else item :: kept) rest) value = _
      rw [ih (holds_step represents), List.append_assoc]
      rfl

theorem unique_eq (context : FilterContext) (items arguments : List Value) :
    unique { context with source := .list items } arguments =
      pure (.list (firstOfEach items)) := by
  rw [← firsts_eq_firstOfEach]
  rfl

variable [Record.Lawful]

/-- Of the items that equal one another the first one stays, and nothing else does: so no two of
the items that stay are equal, each item equals one of them, and they stay when repetitions are
removed once more. -/
theorem unique_keeps_firsts (context : FilterContext) (items arguments : List Value)
    (wellFormed : ∀ item ∈ items, item.WellFormed) :
    let kept := firstOfEach items
    unique { context with source := .list items } arguments = pure (.list kept) ∧
      kept.Sublist items ∧
      kept.Pairwise (fun earlier later => ¬ earlier.same later ∧ ¬ later.same earlier) ∧
      (∀ item ∈ items, ∃ found ∈ kept, found.same item ∧ item.same found) ∧
      unique { context with source := .list kept } arguments = pure (.list kept) := by
  intro kept
  have stays : firsts [] items = kept := firsts_eq_firstOfEach items
  have listed : kept.Sublist items := firstOfEach_sublist items
  have apart : kept.Pairwise fun earlier later => ¬ earlier.same later :=
    stays ▸ firsts_pairwise .nil items
  refine ⟨unique_eq context items arguments, listed, ?_, ?_, ?_⟩
  · refine apart.imp_of_mem ?_
    intro earlier later _ member different
    exact ⟨different, fun same =>
      different (Value.same_symm (wellFormed later (listed.subset member)) same)⟩
  · intro item member
    have held : holds kept item := by
      rw [← stays, holds_firsts (fun _ => rfl : ∀ value, holds [] value = holds [] value)]
      exact List.any_eq_true.mpr ⟨item, member, Value.same_self item (wellFormed item member)⟩
    obtain ⟨found, inside, same⟩ := List.any_eq_true.mp held
    exact ⟨found, inside, same, Value.same_symm (wellFormed found (listed.subset inside)) same⟩
  · have again : firsts [] kept = kept := firsts_of_pairwise apart
    rw [unique_eq, ← firsts_eq_firstOfEach kept, again]

end

/-- Two maps in a list are equal although their entries, and those of the maps in them, come in
different orders; a dynamic record with the same entries is not equal to them. -/
theorem unique_keeps_firsts_nested :
    let entries := [("at", Value.map [("x", .null), ("y", .bool true)]), ("on", .null)]
    let others := [("on", .null), ("at", Value.map [("y", .bool true), ("x", .null)])]
    let items : List Value := [.map entries, .bool true, .map others, .record none entries,
      .list [.map others], .bool true, .list [.map entries], .record none others]
    let kept : List Value := [.map entries, .bool true, .record none entries, .list [.map others]]
    (∀ item ∈ items, item.WellFormed) ∧ firstOfEach items = kept ∧
      unique { FilterContext.bare with source := .list items } [] = pure (.list kept) ∧
      unique { FilterContext.bare with source := .list kept } [] = pure (.list kept) := by
  intro entries others items kept
  have wellFormed : ∀ item ∈ items, item.WellFormed := by
    simp [items, entries, others, Value.WellFormed, Value.AllWellFormed, Value.EntriesWellFormed,
      Entries.Distinct, Entries.names]
  obtain ⟨once, _, _, _, again⟩ := unique_keeps_firsts FilterContext.bare items [] wellFormed
  exact ⟨wellFormed, rfl, once, again⟩

end Reshape.Filter
