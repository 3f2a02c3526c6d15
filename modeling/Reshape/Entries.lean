/-!
Ordered entries: names with what they hold, in the order of insertion. Writing an
existing name keeps its position; a new name goes to the end. `Distinct` is the
invariant that every operation here keeps.
-/

namespace Reshape

abbrev Entries (α : Type) := List (String × α)

namespace Entries

variable {α : Type}

def names (entries : Entries α) : List String := entries.map (·.1)

def Distinct (entries : Entries α) : Prop := entries.names.Nodup

def get? (name : String) : Entries α → Option α
  | [] => none
  | (found, value) :: rest => if found == name then some value else get? name rest

def has (name : String) (entries : Entries α) : Bool := (get? name entries).isSome

def insert (name : String) (value : α) : Entries α → Entries α
  | [] => [(name, value)]
  | (found, old) :: rest =>
      if found == name then (found, value) :: rest else (found, old) :: insert name value rest

def erase (name : String) : Entries α → Entries α
  | [] => []
  | (found, value) :: rest => if found == name then rest else (found, value) :: erase name rest

/-- Inserts the pairs one after the other, so the last value of a repeated name stays,
at the position of the first. -/
def ofPairs (pairs : List (String × α)) : Entries α :=
  pairs.foldl (fun entries pair => insert pair.1 pair.2 entries) []

theorem get?_insert (name other : String) (value : α) (entries : Entries α) :
    get? other (insert name value entries) =
      if name = other then some value else get? other entries := by
  induction entries with
  | nil => by_cases same : name = other <;> simp [insert, get?, same]
  | cons entry rest ih =>
      obtain ⟨found, old⟩ := entry
      by_cases first : found = name
      · subst first
        by_cases same : found = other <;> simp [insert, get?, same]
      · by_cases second : found = other
        · subst second
          simp [insert, get?, first, Ne.symm first]
        · simp [insert, get?, first, second, ih]

theorem insert_insert (name : String) (first second : α) (entries : Entries α) :
    insert name second (insert name first entries) = insert name second entries := by
  induction entries with
  | nil => simp [insert]
  | cons entry rest ih =>
      obtain ⟨found, old⟩ := entry
      by_cases same : found = name <;> simp [insert, same, ih]

theorem insert_of_get? {name : String} {value : α} {entries : Entries α}
    (present : get? name entries = some value) : insert name value entries = entries := by
  induction entries with
  | nil => simp [get?] at present
  | cons entry rest ih =>
      obtain ⟨found, old⟩ := entry
      by_cases same : found = name
      · have held : old = value := by simpa [get?, same] using present
        simp [insert, same, held]
      · have later : get? name rest = some value := by simpa [get?, same] using present
        simp [insert, same, ih later]

theorem mem_of_get? {name : String} {value : α} {entries : Entries α}
    (present : get? name entries = some value) : (name, value) ∈ entries := by
  induction entries with
  | nil => simp [get?] at present
  | cons entry rest ih =>
      obtain ⟨found, old⟩ := entry
      by_cases same : found = name
      · have held : old = value := by simpa [get?, same] using present
        simp [same, held]
      · exact List.mem_cons_of_mem _ (ih (by simpa [get?, same] using present))

theorem get?_of_mem {name : String} {value : α} {entries : Entries α} (distinct : Distinct entries)
    (member : (name, value) ∈ entries) : get? name entries = some value := by
  induction entries with
  | nil => contradiction
  | cons entry rest ih =>
      obtain ⟨found, held⟩ := entry
      obtain ⟨fresh, others⟩ := List.nodup_cons.mp distinct
      rcases List.mem_cons.mp member with same | later
      · cases same
        simp [get?]
      · have different : found ≠ name := by
          intro same
          have listed : name ∈ names rest := List.mem_map_of_mem later
          exact fresh (same ▸ listed)
        simp [get?, different, ih others later]

theorem get?_of_not_mem {name : String} {entries : Entries α} (absent : name ∉ names entries) :
    get? name entries = none := by
  cases found : get? name entries with
  | none => rfl
  | some value => exact absurd (List.mem_map_of_mem (mem_of_get? found)) absent

theorem exists_get?_of_mem_names {entries : Entries α} {name : String}
    (listed : name ∈ names entries) : ∃ value, entries.get? name = some value := by
  induction entries with
  | nil => contradiction
  | cons entry rest ih =>
      obtain ⟨found, value⟩ := entry
      by_cases same : found = name
      · exact ⟨value, by simp [get?, same]⟩
      · obtain ⟨held, later⟩ := ih (by simpa [names, Ne.symm same] using listed)
        exact ⟨held, by simpa [get?, same] using later⟩

theorem not_mem_of_get? {name : String} {entries : Entries α} (absent : get? name entries = none) :
    name ∉ names entries := by
  intro listed
  obtain ⟨value, found⟩ := exists_get?_of_mem_names listed
  rw [absent] at found
  contradiction

theorem insert_of_not_mem {name : String} {entries : Entries α} (absent : name ∉ names entries)
    (value : α) : insert name value entries = entries ++ [(name, value)] := by
  induction entries with
  | nil => rfl
  | cons entry rest ih =>
      obtain ⟨found, held⟩ := entry
      obtain ⟨different, later⟩ : name ≠ found ∧ name ∉ names rest := by
        simpa [names] using absent
      simp [insert, Ne.symm different, ih later]

theorem names_insert (name : String) (value : α) (entries : Entries α) :
    names (insert name value entries) =
      if name ∈ names entries then names entries else names entries ++ [name] := by
  induction entries with
  | nil => simp [insert, names]
  | cons entry rest ih =>
      obtain ⟨found, old⟩ := entry
      by_cases first : found = name
      · subst first
        simp [insert, names]
      · have tail : (insert name value rest).map (·.1) =
            if name ∈ rest.map (·.1) then rest.map (·.1) else rest.map (·.1) ++ [name] := ih
        by_cases present : name ∈ rest.map (·.1) <;>
          simp [insert, names, first, Ne.symm first, tail, present]

theorem distinct_insert {entries : Entries α} (distinct : Distinct entries) (name : String)
    (value : α) : Distinct (insert name value entries) := by
  unfold Distinct
  rw [names_insert]
  split
  · exact distinct
  · rename_i absent
    refine List.nodup_append.mpr ⟨distinct, by simp, ?_⟩
    intro first listed second same
    rw [List.mem_singleton.mp same]
    exact fun equal => absent (equal ▸ listed)

theorem mem_names_insert {entries : Entries α} {name other : String} {value : α} :
    other ∈ names (insert name value entries) ↔ other = name ∨ other ∈ names entries := by
  rw [names_insert]
  split
  · rename_i listed
    exact ⟨.inr, fun either => either.elim (fun same => same ▸ listed) id⟩
  · simp [or_comm]

theorem erase_of_not_mem {name : String} {entries : Entries α} (absent : name ∉ names entries) :
    erase name entries = entries := by
  induction entries with
  | nil => rfl
  | cons entry rest ih =>
      obtain ⟨found, value⟩ := entry
      obtain ⟨different, later⟩ : name ≠ found ∧ name ∉ names rest := by
        simpa [names] using absent
      simp [erase, Ne.symm different, ih later]

theorem names_erase (name : String) (entries : Entries α) :
    names (erase name entries) = (names entries).erase name := by
  induction entries with
  | nil => rfl
  | cons entry rest ih =>
      obtain ⟨found, value⟩ := entry
      have tail : (erase name rest).map (·.1) = (rest.map (·.1)).erase name := ih
      by_cases same : found = name <;> simp [erase, names, same, tail]

theorem distinct_erase {entries : Entries α} (distinct : Distinct entries) (name : String) :
    Distinct (erase name entries) := by
  rw [Distinct, names_erase]
  exact distinct.sublist List.erase_sublist

theorem get?_erase_apart {name other : String} (apart : name ≠ other) (entries : Entries α) :
    get? other (erase name entries) = get? other entries := by
  induction entries with
  | nil => rfl
  | cons entry rest ih =>
      obtain ⟨found, value⟩ := entry
      by_cases same : found = name
      · subst same
        simp [erase, get?, apart]
      · simp [erase, get?, same, ih]

theorem split_of_get? {name : String} {value : α} {entries : Entries α}
    (found : get? name entries = some value) :
    ∃ front back, entries = front ++ (name, value) :: back ∧ name ∉ names front := by
  induction entries with
  | nil => contradiction
  | cons entry rest ih =>
      obtain ⟨first, held⟩ := entry
      by_cases same : first = name
      · have holds : held = value := by simpa [get?, same] using found
        exact ⟨[], rest, by rw [same, holds, List.nil_append], by simp [names]⟩
      · obtain ⟨front, back, rfl, absent⟩ := ih (by simpa [get?, same] using found)
        exact ⟨(first, held) :: front, back, rfl, by simpa [names, Ne.symm same] using absent⟩

section Split

variable {name : String} {front back : Entries α} (absent : name ∉ names front)
include absent

theorem insert_split (value next : α) :
    insert name next (front ++ (name, value) :: back) = front ++ (name, next) :: back := by
  induction front with
  | nil => simp [insert]
  | cons entry rest ih =>
      obtain ⟨different, later⟩ : name ≠ entry.1 ∧ name ∉ names rest := by
        simpa [names] using absent
      simp [insert, Ne.symm different, ih later]

theorem erase_split (value : α) :
    erase name (front ++ (name, value) :: back) = front ++ back := by
  induction front with
  | nil => simp [erase]
  | cons entry rest ih =>
      obtain ⟨different, later⟩ : name ≠ entry.1 ∧ name ∉ names rest := by
        simpa [names] using absent
      simp [erase, Ne.symm different, ih later]

end Split

end Entries

end Reshape
