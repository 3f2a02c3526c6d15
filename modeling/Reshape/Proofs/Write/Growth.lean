import Mathlib.Data.List.Perm.Basic
import Reshape.Proofs.Value.Equality
import Reshape.Proofs.Write.Siblings
/-!
Many writes into one growing tree of maps. A write whose keys are all names of map entries
meets nulls and maps until it has parted from every write before it, so it cannot fail. What
stands under a key in the end depends on the writes below that key alone, and so the order
in which the writes were made shows in nothing but the order of the entries.
-/

namespace Reshape

namespace Value

def entriesOf : Value → List (String × Value)
  | .map entries => entries
  | _ => []

/-- What stands under a name in a map, null where nothing does. -/
def entryAt (current : Value) (name : String) : Value :=
  (Entries.get? name current.entriesOf).getD .null

/-- The value that stands in the place of another once a value is written below it at names
of map entries. -/
def grow (current : Value) : List String → Value → Value
  | [], value => value
  | name :: rest, value =>
      .map (Entries.insert name ((current.entryAt name).grow rest value) current.entriesOf)

/-- Values through which a write at names goes on: maps, and nulls that become maps. -/
def yields : Value → Bool
  | .null | .map _ => true
  | _ => false

/-- On the way along the names stand only values through which a write goes on. -/
def Clear (current : Value) : List String → Prop
  | [] => True
  | name :: rest => current.yields ∧ (current.entryAt name).Clear rest

variable {delimiter : Delimiter} {current : Value} {name : String} {names rest : List String}

theorem setAt_of_clear [Record.Accessors] (named : ∀ name ∈ names, index? name = none)
    (clear : current.Clear names)
    (travelled : List String) (value : Value) :
    setAt delimiter travelled current names value = { root := current.grow names value } := by
  induction names generalizing current travelled with
  | nil => rfl
  | cons name rest ih =>
      obtain ⟨plain, others⟩ := List.forall_mem_cons.mp named
      obtain ⟨yielding, below⟩ := clear
      have container : containerFor name current = .map current.entriesOf := by
        cases current with
        | null => simp [containerFor, isNull, emptyFor, plain, entriesOf]
        | map entries => rfl
        | bool | number | string | list | record => contradiction
      have child : setAt delimiter (travelled ++ [name])
          (valueUnder (.map current.entriesOf) name rest) rest value =
          { root := (current.entryAt name).grow rest value } := by
        rw [← ih others below (travelled ++ [name])]
        unfold valueUnder entryAt
        cases found : Entries.get? name current.entriesOf with
        | none => simpa [get?, found] using setAt_scaffold delimiter _ rest value
        | some held => simp [get?, found]
      have accepted : (containerFor name current).accepts name := by rw [container]; rfl
      rw [setAt_of_accepts accepted, container, child]
      rfl

section Growth

theorem entriesOf_grow (value : Value) :
    (current.grow (name :: rest) value).entriesOf =
      Entries.insert name ((current.entryAt name).grow rest value) current.entriesOf := rfl

theorem entryAt_grow (value : Value) (other : String) :
    (current.grow (name :: rest) value).entryAt other =
      if name = other then (current.entryAt name).grow rest value else current.entryAt other := by
  unfold entryAt
  rw [entriesOf_grow, Entries.get?_insert]
  split <;> rfl

/-- Values written at names one after the other. -/
def growAll (current : Value) (writes : List (List String × Value)) : Value :=
  writes.foldl (fun reached write => reached.grow write.1 write.2) current

/-- The writes that go on below a name, each with the names that are left. -/
def writesBelow (name : String) (writes : List (List String × Value)) :
    List (List String × Value) :=
  writes.filterMap fun write =>
    match write.1 with
    | [] => none
    | first :: rest => if first = name then some (rest, write.2) else none

variable {writes others : List (List String × Value)}

theorem writesBelow_cons_self (name : String) (rest : List String) (value : Value) :
    writesBelow name ((name :: rest, value) :: writes) = (rest, value) :: writesBelow name writes := by
  simp [writesBelow]

theorem writesBelow_cons_other {other : String} (different : other ≠ name) (value : Value) :
    writesBelow name ((other :: rest, value) :: writes) = writesBelow name writes := by
  simp [writesBelow, different]

theorem mem_writesBelow {write : List String × Value} :
    write ∈ writesBelow name writes ↔ (name :: write.1, write.2) ∈ writes := by
  induction writes with
  | nil => simp [writesBelow]
  | cons first later ih =>
      obtain ⟨_ | ⟨other, rest⟩, value⟩ := first
      · simpa [writesBelow] using ih
      · by_cases same : other = name
        · subst same
          rw [writesBelow_cons_self, List.mem_cons, List.mem_cons, ih]
          simp [Prod.ext_iff]
        · rw [writesBelow_cons_other same, ih, List.mem_cons]
          simp [Ne.symm same]

/-- What stands under a name in the end the writes below that name have made, and no other. -/
theorem entryAt_growAll (proper : ∀ write ∈ writes, write.1 ≠ []) (name : String) :
    (current.growAll writes).entryAt name =
      (current.entryAt name).growAll (writesBelow name writes) := by
  induction writes generalizing current with
  | nil => rfl
  | cons write later ih =>
      obtain ⟨nonempty, others⟩ := List.forall_mem_cons.mp proper
      obtain ⟨_ | ⟨first, rest⟩, value⟩ := write
      · contradiction
      · change ((current.grow (first :: rest) value).growAll later).entryAt name = _
        rw [ih others, entryAt_grow]
        by_cases same : first = name
        · subst same
          rw [writesBelow_cons_self, if_pos rfl]
          rfl
        · rw [writesBelow_cons_other same, if_neg same]

theorem mem_names_growAll (proper : ∀ write ∈ writes, write.1 ≠ []) {name : String} :
    name ∈ Entries.names (current.growAll writes).entriesOf ↔
      name ∈ Entries.names current.entriesOf ∨ writesBelow name writes ≠ [] := by
  induction writes generalizing current with
  | nil => simp [growAll, writesBelow]
  | cons write later ih =>
      obtain ⟨nonempty, others⟩ := List.forall_mem_cons.mp proper
      obtain ⟨_ | ⟨first, rest⟩, value⟩ := write
      · contradiction
      · change name ∈ Entries.names ((current.grow (first :: rest) value).growAll later).entriesOf ↔ _
        rw [ih others, entriesOf_grow, Entries.mem_names_insert]
        by_cases same : first = name
        · subst same
          simp [writesBelow_cons_self]
        · simp [writesBelow_cons_other same, Ne.symm same]

theorem distinct_growAll (proper : ∀ write ∈ writes, write.1 ≠ [])
    (distinct : Entries.Distinct current.entriesOf) :
    Entries.Distinct (current.growAll writes).entriesOf := by
  induction writes generalizing current with
  | nil => exact distinct
  | cons write later ih =>
      obtain ⟨nonempty, others⟩ := List.forall_mem_cons.mp proper
      obtain ⟨_ | ⟨first, rest⟩, value⟩ := write
      · contradiction
      · exact ih others (Entries.distinct_insert distinct first _)

theorem eq_entryAt {key : String} {value : Value}
    (found : Entries.get? key current.entriesOf = some value) : value = current.entryAt key := by
  rw [entryAt, found, Option.getD_some]

theorem eq_singleton_of_improper
    (parted : writes.Pairwise fun first second => Parted first.1 second.1)
    {write : List String × Value} (member : write ∈ writes) (improper : write.1 = []) :
    writes = [write] := by
  cases writes with
  | nil => contradiction
  | cons first later =>
      obtain ⟨apart, _⟩ := List.pairwise_cons.mp parted
      rcases List.mem_cons.mp member with rfl | inside
      · have alone : later = [] := by
          apply List.eq_nil_iff_forall_not_mem.mpr
          intro second inside
          exact (apart second inside).1 (improper ▸ List.nil_prefix)
        rw [alone]
      · exact absurd (improper ▸ List.nil_prefix) (apart write inside).2

theorem same_growAll_of_improper [Record.Accessors] [Record.Lawful]
    (permutation : writes.Perm others)
    (parted : writes.Pairwise fun first second => Parted first.1 second.1)
    {write : List String × Value} (member : write ∈ writes) (improper : write.1 = [])
    (wellFormed : write.2.WellFormed) : (current.growAll writes).same (current.growAll others) := by
  have alone := eq_singleton_of_improper parted member improper
  subst alone
  cases List.perm_singleton.mp permutation.symm
  have grown : current.growAll [write] = write.2 := by
    rw [growAll, List.foldl_cons, improper]
    rfl
  rw [grown]
  exact same_self write.2 wellFormed

theorem parted_writesBelow (parted : writes.Pairwise fun first second => Parted first.1 second.1)
    (name : String) :
    (writesBelow name writes).Pairwise fun first second => Parted first.1 second.1 := by
  induction writes with
  | nil => exact .nil
  | cons write later ih =>
      obtain ⟨apart, others⟩ := List.pairwise_cons.mp parted
      obtain ⟨_ | ⟨other, rest⟩, value⟩ := write
      · exact ih others
      · by_cases same : other = name
        · subst same
          rw [writesBelow_cons_self]
          refine List.pairwise_cons.mpr ⟨fun second member => ?_, ih others⟩
          exact (apart _ (mem_writesBelow.mp member)).tail
        · rw [writesBelow_cons_other same]
          exact ih others

theorem growAll_map (proper : ∀ write ∈ writes, write.1 ≠ []) (entries : List (String × Value)) :
    (map entries).growAll writes = .map ((map entries).growAll writes).entriesOf := by
  induction writes generalizing entries with
  | nil => rfl
  | cons write later ih =>
      obtain ⟨nonempty, others⟩ := List.forall_mem_cons.mp proper
      obtain ⟨_ | ⟨first, rest⟩, value⟩ := write
      · contradiction
      · exact ih others _

theorem growAll_eq_map (proper : ∀ write ∈ writes, write.1 ≠ []) (nonempty : writes ≠ []) :
    current.growAll writes = .map (current.growAll writes).entriesOf := by
  cases writes with
  | nil => contradiction
  | cons write later =>
      obtain ⟨visible, others⟩ := List.forall_mem_cons.mp proper
      obtain ⟨_ | ⟨first, rest⟩, value⟩ := write
      · contradiction
      · exact growAll_map others _

theorem same_growAll_of_length [Record.Accessors] [Record.Lawful] {length : Nat}
    (short : ∀ write ∈ writes, write.1.length ≤ length)
    (permutation : writes.Perm others)
    (parted : writes.Pairwise fun first second => Parted first.1 second.1)
    (wellFormed : ∀ write ∈ writes, write.2.WellFormed) (blank : current.entriesOf = [])
    (initial : current.WellFormed) :
    (current.growAll writes).same (current.growAll others) := by
  induction length generalizing writes others current with
  | zero =>
      cases writes with
      | nil =>
          cases permutation.nil_eq
          exact same_self current initial
      | cons write later =>
          have improper : write.1 = [] := List.length_eq_zero_iff.mp
            (Nat.le_zero.mp (short write List.mem_cons_self))
          exact same_growAll_of_improper permutation parted List.mem_cons_self improper
            (wellFormed write List.mem_cons_self)
  | succ length ih =>
      by_cases improper : ∃ write ∈ writes, write.1 = []
      · obtain ⟨write, member, nameless⟩ := improper
        exact same_growAll_of_improper permutation parted member nameless (wellFormed write member)
      · by_cases empty : writes = []
        · subst empty
          cases permutation.nil_eq
          exact same_self current initial
        · have proper : ∀ write ∈ writes, write.1 ≠ [] := fun write member nameless =>
            improper ⟨write, member, nameless⟩
          have otherProper : ∀ write ∈ others, write.1 ≠ [] := fun write member =>
            proper write (permutation.mem_iff.mpr member)
          have inhabited : others ≠ [] := fun none => empty (none ▸ permutation).eq_nil
          have below (name : String) : (writesBelow name writes).Perm (writesBelow name others) :=
            permutation.filterMap _
          have distinct : Entries.Distinct current.entriesOf := by
            rw [blank]
            exact List.nodup_nil
          rw [growAll_eq_map proper empty, growAll_eq_map otherProper inhabited]
          refine same_map (distinct_growAll proper distinct) (distinct_growAll otherProper distinct)
            (fun name => ?_) (fun name value other found alsoFound => ?_)
          · rw [mem_names_growAll proper, mem_names_growAll otherProper]
            exact or_congr Iff.rfl (not_congr
              ⟨fun none => (none ▸ below name).nil_eq.symm, fun none => (none ▸ below name).eq_nil⟩)
          · rw [eq_entryAt found, eq_entryAt alsoFound, entryAt_growAll proper, entryAt_growAll otherProper]
            have missing : current.entryAt name = .null := by
              rw [entryAt, blank]
              rfl
            have listed {write : List String × Value} (member : write ∈ writesBelow name writes) :=
              mem_writesBelow.mp member
            rw [missing]
            exact ih (fun write member => Nat.le_of_succ_le_succ (short _ (listed member)))
              (below name) (parted_writesBelow parted name)
              (fun write member => wellFormed (name :: write.1, write.2) (listed member)) rfl trivial

theorem exists_length (writes : List (List String × Value)) :
    ∃ length, ∀ write ∈ writes, write.1.length ≤ length := by
  induction writes with
  | nil => exact ⟨0, by simp⟩
  | cons write later ih =>
      obtain ⟨length, short⟩ := ih
      refine ⟨max write.1.length length, List.forall_mem_cons.mpr
        ⟨Nat.le_max_left _ _, fun other member => ?_⟩⟩
      exact Nat.le_trans (short other member) (Nat.le_max_right _ _)

/-- The order of writes that part from each other is only the order of entries. -/
theorem same_growAll [Record.Accessors] [Record.Lawful] (permutation : writes.Perm others)
    (parted : writes.Pairwise fun first second => Parted first.1 second.1)
    (wellFormed : ∀ write ∈ writes, write.2.WellFormed) (blank : current.entriesOf = [])
    (initial : current.WellFormed) :
    (current.growAll writes).same (current.growAll others) := by
  obtain ⟨length, short⟩ := exists_length writes
  exact same_growAll_of_length short permutation parted wellFormed blank initial

theorem clear_growAll (blank : current.entriesOf = []) (yielding : current.yields)
    (parted : ∀ write ∈ writes, Parted write.1 names) : (current.growAll writes).Clear names := by
  induction names generalizing writes current with
  | nil => trivial
  | cons name rest ih =>
      have proper : ∀ write ∈ writes, write.1 ≠ [] := fun write member nameless =>
        (parted write member).1 (nameless ▸ List.nil_prefix)
      constructor
      · by_cases empty : writes = []
        · rw [empty]
          exact yielding
        · rw [growAll_eq_map proper empty]
          rfl
      · have missing : current.entryAt name = .null := by
          rw [entryAt, blank]
          rfl
        rw [entryAt_growAll proper, missing]
        exact ih rfl rfl fun write member => (parted _ (mem_writesBelow.mp member)).tail

end Growth

end Value

end Reshape
