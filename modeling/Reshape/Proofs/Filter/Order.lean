import Mathlib.Data.List.Perm.Basic
import Reshape.Proofs.Decimal.Rounding
import Reshape.Proofs.Filter.BuiltIn

namespace Reshape.Filter

variable {items : List Value} {arguments : List Value} {descending : Bool}

/-- How arguments name an order. The ascending one is also meant by null and by no argument. -/
inductive NamesOrder : List Value → Bool → Prop
  | absent : NamesOrder [] false
  | null (others : List Value) : NamesOrder (.null :: others) false
  | ascending (others : List Value) : NamesOrder (.string "asc" :: others) false
  | descending (others : List Value) : NamesOrder (.string "desc" :: others) true

def directed {α : Type} (descending : Bool) (ascending : List α) : List α :=
  if descending then ascending.reverse else ascending

theorem directed_perm {α : Type} (descending : Bool) (ascending : List α) :
    (directed descending ascending).Perm ascending := by
  cases descending with
  | false => exact .refl _
  | true => exact List.reverse_perm _

theorem map_directed {α β : Type} (change : α → β) (ascending : List α) :
    (directed descending ascending).map change = directed descending (ascending.map change) := by
  cases descending with
  | false => rfl
  | true => exact List.map_reverse

theorem sort_eq (names : NamesOrder arguments descending) (context : FilterContext)
    (items : List Value) :
    sort { context with source := .list items } arguments =
      match sorted items with
      | .ok ascending => pure (.list (directed descending ascending))
      | .error fault => throw (.fault fault) := by
  have asked : stringArgument arguments 0 "asc" >>= isDescending = .ok descending := by
    cases names <;> rfl
  obtain ⟨order, argument, direction⟩ := bind_eq_ok_iff.mp asked
  unfold sort ofPure
  simp only [onList, argument, direction, bind, Except.bind]
  cases sorted items <;> rfl

theorem floats_outcomes (items : List Value) (position : Nat) :
    ((∀ item ∈ items, (number? item).isSome) ∧ ∃ values, floats items position = .ok values) ∨
      (¬ ∀ item ∈ items, (number? item).isSome) ∧
        ∃ place found, floats items position = .error (place, found) := by
  induction items generalizing position with
  | nil => exact .inl ⟨by simp, [], rfl⟩
  | cons item rest ih =>
      rw [floats]
      cases here : number? item with
      | none => exact .inr ⟨by simp [here], _, _, rfl⟩
      | some number =>
          obtain ⟨numbers, values, read⟩ | ⟨mixed, place, found, read⟩ := ih (position + 1)
          · exact .inl ⟨by simpa [here] using numbers, _, by rw [read]; rfl⟩
          · exact .inr ⟨by simpa [here] using mixed, place, found, by rw [read]; rfl⟩

theorem sorted_of_strings (strings : ∀ item ∈ items, (string? item).isSome) :
    sorted items = .ok (sortStrings items) := if_pos (List.all_eq_true.mpr strings)

theorem sorted_of_numbers (numbers : ∀ item ∈ items, (number? item).isSome) :
    sorted items = .ok (sortNumbers items) := by
  unfold sorted
  split
  · rename_i strings
    cases items with
    | nil => simp [sortStrings, sortNumbers]
    | cons item rest =>
        have string := List.all_eq_true.mp strings item List.mem_cons_self
        have number := numbers item List.mem_cons_self
        cases item <;> contradiction
  · obtain ⟨_, values, read⟩ | ⟨mixed, _⟩ := floats_outcomes items 0
    · rw [read]
    · exact absurd numbers mixed

theorem sorted_of_mixed (texts : ¬ ∀ item ∈ items, (string? item).isSome)
    (numbers : ¬ ∀ item ∈ items, (number? item).isSome) :
    ∃ place found, sorted items = .error (.mixedElements place found) := by
  obtain ⟨all, _⟩ | ⟨_, place, found, read⟩ := floats_outcomes items 0
  · exact absurd all numbers
  · refine ⟨place, found, ?_⟩
    rw [sorted, if_neg (fun all => texts (List.all_eq_true.mp all)), read]

theorem sortStrings_perm (items : List Value) : (sortStrings items).Perm items :=
  List.mergeSort_perm items _

theorem sortNumbers_eq (items : List Value) :
    sortNumbers items =
      items.mergeSort fun left right => decide (numericPosition left ≤ numericPosition right) := by
  have placed := List.map_mergeSort (f := fun item => (numericPosition item, item)) (l := items)
    (r := fun left right => decide (numericPosition left ≤ numericPosition right))
    (s := fun left right => decide (left.1 ≤ right.1)) (fun _ _ _ _ => rfl)
  rw [sortNumbers, ← placed, List.map_map]
  exact List.map_id _

theorem sortNumbers_perm (items : List Value) : (sortNumbers items).Perm items := by
  rw [sortNumbers_eq]
  exact List.mergeSort_perm items _

theorem sorted_perm {ascending : List Value} (ended : sorted items = .ok ascending) :
    ascending.Perm items := by
  by_cases strings : ∀ item ∈ items, (string? item).isSome
  · rw [sorted_of_strings strings] at ended
    exact Except.ok.inj ended ▸ sortStrings_perm items
  · by_cases numbers : ∀ item ∈ items, (number? item).isSome
    · rw [sorted_of_numbers numbers] at ended
      exact Except.ok.inj ended ▸ sortNumbers_perm items
    · obtain ⟨place, found, failed⟩ := sorted_of_mixed strings numbers
      rw [failed] at ended
      contradiction

section Texts

variable {texts others : List String}

/-- At the first difference the first text has the lesser code point, or it ends there. -/
def InTextOrder (left right : String) : Prop :=
  left = right ∨ List.Lex (· < ·) (left.toList.map Char.toNat) (right.toList.map Char.toNat)

theorem lex_codePoints {left right : List Char} :
    List.Lex (· < ·) (left.map Char.toNat) (right.map Char.toNat) ↔ left < right := by
  induction left generalizing right with
  | nil => cases right <;> simp
  | cons first rest ih =>
      cases right with
      | nil => simp
      | cons other others =>
          rw [List.map_cons, List.map_cons, List.cons_lex_cons_iff, ih, List.cons_lt_cons_iff,
            Char.toNat_inj]
          exact Iff.rfl

theorem inTextOrder_iff {left right : String} : InTextOrder left right ↔ left ≤ right := by
  rw [InTextOrder, lex_codePoints, ← String.lt_iff]
  constructor
  · rintro (rfl | less)
    · exact String.le_refl left
    · exact fun greater => String.lt_irrefl left (String.lt_trans less greater)
  · intro ordered
    by_cases less : left < right
    · exact .inr less
    · exact .inl (String.le_antisymm ordered (String.not_lt.mp less))

def ascendingTexts (texts : List String) : List String :=
  texts.mergeSort fun left right => decide (left ≤ right)

theorem ascendingTexts_perm (texts : List String) : (ascendingTexts texts).Perm texts :=
  List.mergeSort_perm texts _

theorem ascendingTexts_ordered (texts : List String) :
    (ascendingTexts texts).Pairwise (· ≤ ·) := by
  have ordered : (ascendingTexts texts).Pairwise fun left right => decide (left ≤ right) = true :=
    List.pairwise_mergeSort (by simpa using fun left middle right => String.le_trans)
      (by simpa using String.le_total) texts
  exact ordered.imp of_decide_eq_true

theorem ascendingTexts_of_perm (perm : others.Perm texts) :
    ascendingTexts others = ascendingTexts texts :=
  List.Perm.eq_of_pairwise (fun _ _ _ _ => String.le_antisymm) (ascendingTexts_ordered others)
    (ascendingTexts_ordered texts)
    ((ascendingTexts_perm others).trans (perm.trans (ascendingTexts_perm texts).symm))

theorem sorted_texts (texts : List String) :
    sorted (texts.map .string) = .ok ((ascendingTexts texts).map .string) := by
  have placed := List.map_mergeSort (f := Value.string) (l := texts)
    (r := fun left right => decide (left ≤ right))
    (s := fun left right => !decide ((string? right).getD "" < (string? left).getD ""))
    (fun _ _ _ _ => decide_not)
  rw [sorted_of_strings (by simp [string?]), ascendingTexts, placed, sortStrings]

theorem sort_texts (names : NamesOrder arguments descending) (context : FilterContext)
    (perm : others.Perm texts) :
    sort { context with source := .list (others.map .string) } arguments =
      pure (.list ((directed descending (ascendingTexts texts)).map .string)) := by
  rw [sort_eq names, sorted_texts, map_directed, ascendingTexts_of_perm perm]

end Texts

/-- Strings and numbers can be sorted, each among themselves, and nothing else; what comes out is
a permutation. Strings come out in the order of their code points or in the reverse of it,
whichever way they stood; what is sorted is not changed by sorting it again. -/
theorem sort_strings_or_numbers (context : FilterContext) (items : List Value) :
    let run (list arguments : List Value) := sort { context with source := .list list } arguments
    let sortable := (∀ item ∈ items, (string? item).isSome) ∨ ∀ item ∈ items, (number? item).isSome
    (∀ arguments descending, NamesOrder arguments descending →
      ((∃ result, run items arguments = pure result) ↔ sortable) ∧
      (¬ sortable → ∃ place found,
        run items arguments = throw (.fault (.mixedElements place found))) ∧
      ∀ result, run items arguments = pure result → ∃ out, result = .list out ∧ out.Perm items) ∧
    ∀ texts : List String, items = texts.map .string →
      ∃ ascending : List String, ascending.Perm texts ∧ ascending.Pairwise InTextOrder ∧
      ∀ arguments descending, NamesOrder arguments descending →
        let out : List Value := (directed descending ascending).map .string
        run items arguments = pure (.list out) ∧ run out arguments = pure (.list out) ∧
        ∀ others : List String, others.Perm texts →
          run (others.map .string) arguments = pure (.list out) := by
  intro run sortable
  have unsorted : ¬ sortable → ∃ place found, sorted items = .error (.mixedElements place found) :=
    fun mixed => sorted_of_mixed (fun texts => mixed (.inl texts)) fun numbers => mixed (.inr numbers)
  have ends : sortable → ∃ ascending, sorted items = .ok ascending := by
    rintro (texts | numbers)
    · exact ⟨_, sorted_of_strings texts⟩
    · exact ⟨_, sorted_of_numbers numbers⟩
  refine ⟨fun arguments descending names => ?_, fun texts same => ?_⟩
  · by_cases sorts : sortable
    · obtain ⟨ascending, ended⟩ := ends sorts
      have ran : run items arguments = pure (.list (directed descending ascending)) := by
        simp only [run, sort_eq names, ended]
      refine ⟨iff_of_true ⟨_, ran⟩ sorts, absurd sorts, fun result same => ?_⟩
      have out := Attempt.pure_eq_pure_iff.mp (ran.symm.trans same)
      exact ⟨_, out.symm, (directed_perm descending ascending).trans (sorted_perm ended)⟩
    · obtain ⟨place, found, failed⟩ := unsorted sorts
      have ran : run items arguments = throw (.fault (.mixedElements place found)) := by
        simp only [run, sort_eq names, failed]
      have fails : ∀ result, run items arguments ≠ pure result :=
        fun result same => Attempt.throw_ne_pure (ran.symm.trans same)
      exact ⟨iff_of_false (fun ⟨result, same⟩ => fails result same) sorts,
        fun _ => ⟨place, found, ran⟩, fun result same => absurd same (fails result)⟩
  · subst same
    refine ⟨ascendingTexts texts, ascendingTexts_perm texts,
      (ascendingTexts_ordered texts).imp inTextOrder_iff.mpr, fun arguments descending names => ?_⟩
    have again : (directed descending (ascendingTexts texts)).Perm texts :=
      (directed_perm descending _).trans (ascendingTexts_perm texts)
    exact ⟨sort_texts names context (.refl texts), sort_texts names context again,
      fun others perm => sort_texts names context perm⟩

/-- Texts of one, two and three bytes come out in the reverse order, and null is no text. -/
theorem sort_strings_or_numbers_descending :
    let context := FilterContext.bare
    let run (list : List Value) := sort { context with source := .list list } [.string "desc", .null]
    NamesOrder [.string "desc", .null] true ∧ ["€", "b", "é"].Perm ["é", "€", "b"] ∧
    run [.string "€", .string "b", .string "é"] =
      pure (.list [.string "€", .string "é", .string "b"]) ∧
    ∃ place found, run [.string "b", .null] = throw (.fault (.mixedElements place found)) := by
  intro context run
  have names : NamesOrder [.string "desc", .null] true := .descending [.null]
  have perm : ["€", "b", "é"].Perm ["é", "€", "b"] := by decide
  refine ⟨names, perm, ?_, ?_⟩
  · obtain ⟨ascending, same, ordered, each⟩ := (sort_strings_or_numbers context
      [.string "é", .string "€", .string "b"]).2 ["é", "€", "b"] rfl
    have alone : ["b", "é", "€"].Pairwise InTextOrder :=
      List.Pairwise.imp inTextOrder_iff.mpr (show ["b", "é", "€"].Pairwise (· ≤ ·) by decide)
    have listed : ascending = ["b", "é", "€"] :=
      List.Perm.eq_of_pairwise (fun _ _ _ _ first second =>
        String.le_antisymm (inTextOrder_iff.mp first) (inTextOrder_iff.mp second)) ordered alone
        (same.trans (by decide))
    subst listed
    exact (each [.string "desc", .null] true names).2.2 ["€", "b", "é"] perm
  · exact ((sort_strings_or_numbers context [.string "b", .null]).1 _ true names).2.1 (by decide)

section Integers

open Binary64 Number

variable {numbers : List Int}

def Follows (descending : Bool) (left right : Int) : Prop :=
  if descending then right ≤ left else left ≤ right

theorem pairwise_directed (key : Int → Int) (descending : Bool) (list : List Int) :
    (directed descending list).Pairwise (fun left right => Follows descending (key left) (key right)) ↔
      list.Pairwise fun left right => key left ≤ key right := by
  cases descending with
  | false => exact Iff.rfl
  | true => exact List.pairwise_reverse

/-- The integers as they are sorted, by the numbers they are rounded to. -/
def ascendingIntegers (numbers : List Int) : List Int :=
  numbers.mergeSort fun left right => decide (nearestPosition left ≤ nearestPosition right)

theorem ascendingIntegers_perm (numbers : List Int) : (ascendingIntegers numbers).Perm numbers :=
  List.mergeSort_perm numbers _

theorem ascendingIntegers_ordered (numbers : List Int) :
    (ascendingIntegers numbers).Pairwise fun left right =>
      nearestPosition left ≤ nearestPosition right := by
  have ordered : (ascendingIntegers numbers).Pairwise fun left right =>
      decide (nearestPosition left ≤ nearestPosition right) = true :=
    List.pairwise_mergeSort (by simpa using fun left middle right => Int.le_trans)
      (by simpa using fun left right => Int.le_total _ _) numbers
  exact ordered.imp of_decide_eq_true

theorem ascendingIntegers_stable (numbers : List Int) (position : Int) :
    (ascendingIntegers numbers).filter (nearestPosition · = position) =
      numbers.filter (nearestPosition · = position) := by
  have alike : (numbers.filter (nearestPosition · = position)).Pairwise fun left right =>
      decide (nearestPosition left ≤ nearestPosition right) = true := by
    refine List.pairwise_of_forall_mem_list fun left first right second => ?_
    have here := of_decide_eq_true (List.mem_filter.mp first).2
    have there := of_decide_eq_true (List.mem_filter.mp second).2
    exact decide_eq_true (by omega)
  have kept : (numbers.filter (nearestPosition · = position)).Sublist (ascendingIntegers numbers) :=
    List.sublist_mergeSort (by simpa using fun left middle right => Int.le_trans)
      (by simpa using fun left right => Int.le_total _ _) alike List.filter_sublist
  have within := kept.filter (nearestPosition · = position)
  rw [List.filter_filter] at within
  simp only [Bool.and_self] at within
  exact (within.eq_of_length ((ascendingIntegers_perm numbers).filter _).length_eq.symm).symm

/-- No integer stands before a smaller one that rounds to the same number. -/
def TiesInOrder (numbers : List Int) : Prop :=
  numbers.Pairwise fun left right => nearestPosition left = nearestPosition right → left ≤ right

theorem tiesInOrder_iff : TiesInOrder numbers ↔
    ∀ position, (numbers.filter (nearestPosition · = position)).Pairwise (· ≤ ·) := by
  simp only [TiesInOrder, List.pairwise_filter, decide_eq_true_eq]
  constructor
  · exact fun ties position => ties.imp fun order first second => order (first.trans second.symm)
  · intro each
    refine List.pairwise_of_forall_sublist fun {left right} pair same => ?_
    have alone := (each (nearestPosition left)).sublist pair
    exact List.rel_of_pairwise_cons alone List.mem_cons_self rfl same.symm

theorem tiesInOrder_ascendingIntegers :
    TiesInOrder (ascendingIntegers numbers) ↔ TiesInOrder numbers := by
  simp only [tiesInOrder_iff, ascendingIntegers_stable]

theorem ascendingIntegers_sorted_iff (words : ∀ number ∈ numbers, FitsWord number) :
    (ascendingIntegers numbers).Pairwise (· ≤ ·) ↔ TiesInOrder numbers := by
  rw [← tiesInOrder_ascendingIntegers]
  constructor
  · intro ordered
    refine List.Pairwise.imp ?_ ordered
    exact fun less _ => less
  · intro ties
    refine ((ascendingIntegers_ordered numbers).and ties).imp_of_mem ?_
    rintro left right first second ⟨places, order⟩
    have word {number : Int} (member : number ∈ ascendingIntegers numbers) : FitsWord number :=
      words number ((ascendingIntegers_perm numbers).mem_iff.mp member)
    by_contra greater
    have back := nearestPosition_mono (word second) (word first) (by omega)
    exact greater (order (Int.le_antisymm places back))

theorem tiesInOrder_of_small (small : ∀ number ∈ numbers, number.natAbs ≤ 2 * perPower) :
    TiesInOrder numbers := by
  refine List.pairwise_of_forall_mem_list fun left first right second same => ?_
  by_contra greater
  have apart := nearestPosition_lt (small right second) (small left first) (by omega)
  omega

theorem numericPosition_ofInt {number : Int} (word : FitsWord number) :
    numericPosition (Value.ofInt number) = nearestPosition number := by
  rw [Value.ofInt, Number.ofInt?, dif_pos word]
  rfl

theorem sorted_integers (words : ∀ number ∈ numbers, FitsWord number) :
    sorted (numbers.map Value.ofInt) = .ok ((ascendingIntegers numbers).map Value.ofInt) := by
  have placed := List.map_mergeSort (f := Value.ofInt) (l := numbers)
    (r := fun left right => decide (nearestPosition left ≤ nearestPosition right))
    (s := fun left right => decide (numericPosition left ≤ numericPosition right))
    fun left first right second => by
      rw [numericPosition_ofInt (words left first), numericPosition_ofInt (words right second)]
  have all : ∀ item ∈ numbers.map Value.ofInt, (number? item).isSome := by
    intro item member
    obtain ⟨number, listed, rfl⟩ := List.mem_map.mp member
    rw [Value.ofInt, Number.ofInt?, dif_pos (words number listed)]
    rfl
  rw [sorted_of_numbers all, sortNumbers_eq, ascendingIntegers, placed]

end Integers

/-- Sorting integers permutes them into the order of the numbers they are rounded to. They are in
order themselves if and only if none stood before a smaller one that rounds to the same number, as
is the case for integers up to `2 ^ 53`. -/
theorem sort_integers (context : FilterContext) {numbers : List Int}
    (words : ∀ number ∈ numbers, Number.FitsWord number) {arguments : List Value}
    {descending : Bool} (names : NamesOrder arguments descending) :
    ∃ out : List Int,
      sort { context with source := .list (numbers.map Value.ofInt) } arguments =
        pure (.list (out.map Value.ofInt)) ∧
      out.Perm numbers ∧
      (out.Pairwise fun left right => Follows descending (Binary64.nearestPosition left)
        (Binary64.nearestPosition right)) ∧
      (out.Pairwise (Follows descending) ↔ TiesInOrder numbers) ∧
      ((∀ number ∈ numbers, number.natAbs ≤ 2 * Binary64.perPower) →
        out.Pairwise (Follows descending)) := by
  have sorts := (pairwise_directed id descending (ascendingIntegers numbers)).trans
    (ascendingIntegers_sorted_iff words)
  refine ⟨directed descending (ascendingIntegers numbers), ?_, ?_, ?_, sorts, fun small => ?_⟩
  · rw [sort_eq names, sorted_integers words, map_directed]
  · exact (directed_perm descending _).trans (ascendingIntegers_perm numbers)
  · exact (pairwise_directed _ descending _).mpr (ascendingIntegers_ordered numbers)
  · exact sorts.mpr (tiesInOrder_of_small small)

/-- Integers beyond `2 ^ 53` that round apart are sorted. -/
theorem sort_integers_large :
    let context := FilterContext.bare
    let numbers : List Int := [9007199254740994, 9007199254740992, -1]
    (∀ number ∈ numbers, Number.FitsWord number) ∧ NamesOrder [] false ∧ TiesInOrder numbers ∧
    ∃ out : List Int, out.Perm numbers ∧ out.Pairwise (· ≤ ·) ∧
      sort { context with source := .list (numbers.map Value.ofInt) } [] =
        pure (.list (out.map Value.ofInt)) := by
  intro context numbers
  have words : ∀ number ∈ numbers, Number.FitsWord number := by decide
  have ties : TiesInOrder numbers := by
    unfold TiesInOrder
    decide +kernel
  obtain ⟨out, sorts, perm, _, ordered, _⟩ := sort_integers context words .absent
  exact ⟨words, .absent, ties, out, perm, ordered.mpr ties, sorts⟩

/-- Two integers that round alike stay as they stand, the greater one first, and come out turned
round when the greater one is asked for first. -/
theorem sort_integers_tied :
    let context := FilterContext.bare
    let numbers : List Int := [9007199254740993, 9007199254740992]
    let run (arguments : List Value) :=
      sort { context with source := .list (numbers.map Value.ofInt) } arguments
    (∀ number ∈ numbers, Number.FitsWord number) ∧
    run [.string "asc"] = pure (.list (numbers.map Value.ofInt)) ∧
    ¬ numbers.Pairwise (Follows false) ∧
    run [.string "desc"] = pure (.list (numbers.reverse.map Value.ofInt)) ∧
    ¬ numbers.reverse.Pairwise (Follows true) := by
  intro context numbers run
  have words : ∀ number ∈ numbers, Number.FitsWord number := by decide
  have unmoved : ascendingIntegers numbers = numbers :=
    List.mergeSort_of_pairwise (by simp only [numbers]; decide +kernel)
  have sorts {arguments : List Value} {descending : Bool} (names : NamesOrder arguments descending) :
      run arguments = pure (.list ((directed descending numbers).map Value.ofInt)) := by
    simp only [run, sort_eq names, sorted_integers words, map_directed, unmoved]
  have greater : ¬ numbers.Pairwise (Follows false) := by
    unfold Follows
    decide
  exact ⟨words, sorts (.ascending []), greater, sorts (.descending []),
    fun ordered => greater (List.pairwise_reverse.mp ordered)⟩

end Reshape.Filter
