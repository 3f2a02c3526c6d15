import Reshape.Access.Container
import Reshape.Proofs.Access.Sources
/-!
The interface of records. What a record has, what it answers, its list of names and its snapshot
are decided apart, each from the declarations and the stored fields. They agree in every record
that any operations lead to, and an operation through the interface changes its own field alone.
All this holds whatever getters answer, and of all setters that keep to their own fields.
-/

namespace Reshape

namespace Shape

theorem mem_names_of_field? {shape : Shape} {name : String} {spec : FieldSpec}
    (declared : shape.field? name = some spec) : name ∈ shape.fields.names :=
  List.mem_map_of_mem (Entries.mem_of_get? declared)

end Shape

namespace Record

/-- An operation on a record: through its interface, or on a field as it is stored. -/
inductive Edit where
  | set (name : String) (value : Value)
  | remove (name : String)
  | store (name : String) (value : Value)

namespace Edit

def name : Edit → String
  | .set name _ | .remove name | .store name _ => name

def isProperty : Edit → Bool
  | .store _ _ => false
  | _ => true

end Edit

def made : Option Shape → Record
  | none => dynamic
  | some shape => typed shape

/-- Names in the order of insertion after one more operation: a name that is there keeps its
place, and a new one goes to the end. -/
def arrive (order : List String) : Edit → List String
  | .remove name => order.erase name
  | .set name _ | .store name _ => if name ∈ order then order else order ++ [name]

variable {record after : Record} {shape : Shape} {change : Edit} {name field : String}

/-- A change of a record that keeps to one field: the shape and all other fields stay, and no
name is stored twice. -/
structure Within (name : String) (record after : Record) : Prop where
  shape_eq : after.shape = record.shape
  stored?_eq : ∀ field, field ≠ name → after.stored? field = record.stored? field
  distinct : record.fields.Distinct → after.fields.Distinct

theorem Within.refl (name : String) (record : Record) : Within name record record :=
  ⟨rfl, fun _ _ => rfl, id⟩

theorem stored?_store (record : Record) (name : String) (value : Value) :
    (record.store name value).stored? name = some value := by
  have same := Entries.get?_insert name name value record.fields
  rwa [if_pos rfl] at same

theorem within_store (record : Record) (name : String) (value : Value) :
    Within name record (record.store name value) where
  shape_eq := rfl
  stored?_eq field apart := by
    have same := Entries.get?_insert name field value record.fields
    rwa [if_neg (Ne.symm apart)] at same
  distinct before := Entries.distinct_insert before name value

theorem within_erase (record : Record) (name : String) :
    Within name record { record with fields := record.fields.erase name } where
  shape_eq := rfl
  stored?_eq _ apart := Entries.get?_erase_apart (Ne.symm apart) record.fields
  distinct before := Entries.distinct_erase before name

theorem within_write_standard (setter : Setter) (record : Record) (value : Value) :
    Within setter.field record (Accessors.standard.write setter record value) := by
  change Within setter.field record
    ((storing? setter.storing value).elim record (record.store setter.field))
  cases storing? setter.storing value with
  | none => exact Within.refl setter.field record
  | some placed => exact within_store record setter.field placed

theorem Within.mem_names (within : Within name record after) (listed : field ∈ after.fields.names) :
    field = name ∨ field ∈ record.fields.names := by
  by_cases same : field = name
  · exact .inl same
  · obtain ⟨value, found⟩ := Entries.exists_get?_of_mem_names listed
    have before : record.fields.get? field = some value :=
      (within.stored?_eq field same).symm.trans found
    exact .inr (List.mem_map_of_mem (Entries.mem_of_get? before))

namespace Accessors

/-- The setters of a shape write nothing but the field that they are declared for. -/
def KeepTo (accessors : Accessors) (shape : Shape) : Prop :=
  ∀ name spec, (name, spec) ∈ shape.fields → ∀ setter, spec.setter = some setter →
    ∀ record value, record.shape = some shape →
      Within name record (accessors.write setter record value)

theorem standard_keepTo (own : shape.OwnAccessors) : Accessors.standard.KeepTo shape := by
  intro name spec declared setter writer record value _
  have ownField : setter.field = name := (own name spec declared).2 setter writer
  exact ownField ▸ within_write_standard setter record value

end Accessors

section Edits

variable (accessors : Accessors)

def attempt (record : Record) : Edit → Except AccessError Record
  | .set name value => record.setBy accessors name value
  | .remove name => record.remove name
  | .store name value => .ok (record.store name value)

/-- The record after an operation. A refused operation leaves it as it is. -/
def edit (record : Record) (change : Edit) : Record :=
  (record.attempt accessors change).toOption.getD record

def editAll (record : Record) (edits : List Edit) : Record := edits.foldl (edit accessors) record

/-- Records whose setters write nothing but their own fields. -/
def KeepsTo (record : Record) : Prop :=
  ∀ shape, record.shape = some shape → accessors.KeepTo shape

end Edits

section Runs

variable {accessors : Accessors}

/-- What an operation comes to: it keeps to the field that it names, and through the interface it
changes nothing that the shape does not declare. -/
structure Comes (record : Record) (change : Edit) (after : Record) : Prop
    extends Within change.name record after where
  declared : change.isProperty → ∀ shape, record.shape = some shape →
    after = record ∨ change.name ∈ shape.fields.names

theorem comes_set (keeps : record.KeepsTo accessors) {value : Value}
    (written : record.setBy accessors name value = .ok after) :
    Comes record (.set name value) after := by
  unfold setBy at written
  cases typed : record.shape with
  | none =>
      rw [typed] at written
      cases written
      exact ⟨within_store record name value, fun _ shape same => nomatch typed.symm.trans same⟩
  | some shape =>
      rw [typed] at written
      cases found : shape.field? name with
      | none => simp [found] at written
      | some spec =>
          simp only [found] at written
          have declared : ∀ other, record.shape = some other →
              after = record ∨ name ∈ other.fields.names := by
            intro other same
            cases typed.symm.trans same
            exact .inr (Shape.mem_names_of_field? found)
          cases writer : spec.setter with
          | some setter =>
              rw [writer] at written
              cases written
              exact ⟨keeps shape typed name spec (Entries.mem_of_get? found) setter writer record
                value typed, fun _ => declared⟩
          | none =>
              rw [writer] at written
              by_cases shown : spec.visibility = .shown
              · simp only [if_pos shown] at written
                cases written
                exact ⟨within_store record name value, fun _ => declared⟩
              · simp [if_neg shown] at written

theorem comes_remove (done : record.remove name = .ok after) : Comes record (.remove name) after := by
  unfold remove at done
  split at done
  · rename_i allowed
    cases done
    refine ⟨within_erase record name, fun _ shape typed => .inr ?_⟩
    cases found : shape.field? name with
    | none => simp [removable, typed, found] at allowed
    | some spec => exact Shape.mem_names_of_field? found
  · contradiction

theorem comes_attempt (keeps : record.KeepsTo accessors)
    (done : record.attempt accessors change = .ok after) : Comes record change after := by
  cases change with
  | set name value => exact comes_set keeps done
  | remove name => exact comes_remove done
  | store name value =>
      cases done
      exact ⟨within_store record name value, fun property => nomatch property⟩

theorem comes_edit (keeps : record.KeepsTo accessors) (change : Edit) :
    Comes record change (record.edit accessors change) := by
  unfold edit
  cases done : record.attempt accessors change with
  | error failure => exact ⟨Within.refl _ record, fun _ _ _ => .inl rfl⟩
  | ok after => exact comes_attempt keeps done

theorem Comes.names_declared (comes : Comes record change after) (property : change.isProperty)
    (typed : record.shape = some shape)
    (before : ∀ name ∈ record.fields.names, name ∈ shape.fields.names) :
    ∀ name ∈ after.fields.names, name ∈ shape.fields.names := by
  intro name listed
  rcases comes.declared property shape typed with same | declared
  · exact before name (same ▸ listed)
  · rcases comes.toWithin.mem_names listed with rfl | earlier
    · exact declared
    · exact before name earlier

/-! ### Runs of operations -/

theorem editAll_shape (keeps : record.KeepsTo accessors) (edits : List Edit) :
    (record.editAll accessors edits).shape = record.shape := by
  induction edits generalizing record with
  | nil => rfl
  | cons change rest ih =>
      have same := (comes_edit keeps change).shape_eq
      have keepsAfter : (record.edit accessors change).KeepsTo accessors := by rwa [KeepsTo, same]
      exact (ih keepsAfter).trans same

theorem editAll_induction {holds : Record → Prop} {edits : List Edit}
    (keeps : record.KeepsTo accessors) (start : holds record)
    (step : ∀ change ∈ edits, ∀ {before after : Record}, before.shape = record.shape →
      Comes before change after → holds before → holds after) :
    holds (record.editAll accessors edits) := by
  suffices run : ∀ current : Record, current.shape = record.shape → holds current →
      holds (current.editAll accessors edits) from run record rfl start
  intro current
  induction edits generalizing current with
  | nil => exact fun _ held => held
  | cons change rest ih =>
      intro same held
      have keepsCurrent : current.KeepsTo accessors := by rwa [KeepsTo, same]
      have comes := comes_edit keepsCurrent change
      exact ih (fun later member => step later (List.mem_cons_of_mem change member))
        (current.edit accessors change) (comes.shape_eq.trans same)
        (step change List.mem_cons_self same comes held)

theorem keepsTo_made {shape : Option Shape}
    (keeps : ∀ declared, shape = some declared → accessors.KeepTo declared) :
    (made shape).KeepsTo accessors := by
  cases shape with
  | none => exact fun _ declared => nomatch declared
  | some shape => exact keeps

theorem names_edit_dynamic (accessors : Accessors) (untyped : record.shape = none) (change : Edit) :
    (record.edit accessors change).fields.names = arrive record.fields.names change := by
  obtain ⟨_, fields⟩ := record
  cases untyped
  cases change with
  | set name value => exact Entries.names_insert name value fields
  | remove name => exact Entries.names_erase name fields
  | store name value => exact Entries.names_insert name value fields

theorem names_editAll_dynamic (untyped : record.shape = none) (edits : List Edit) :
    (record.editAll accessors edits).fields.names = edits.foldl arrive record.fields.names := by
  induction edits generalizing record with
  | nil => rfl
  | cons change rest ih =>
      have keeps : record.KeepsTo accessors := fun _ declared => nomatch untyped.symm.trans declared
      rw [List.foldl_cons, ← names_edit_dynamic accessors untyped]
      exact ih ((comes_edit keeps change).shape_eq.trans untyped)

/-! ### What a record shows -/

theorem has_iff_mem_names (record : Record) (name : String) :
    record.has name ↔ name ∈ record.names := by
  unfold names
  cases typed : record.shape with
  | none =>
      have stored : record.has name = record.fields.has name := by simp [has, typed]
      rw [stored]
      constructor
      · intro present
        obtain ⟨value, found⟩ := Option.isSome_iff_exists.mp present
        exact List.mem_map_of_mem (Entries.mem_of_get? found)
      · intro listed
        exact Option.isSome_iff_exists.mpr (Entries.exists_get?_of_mem_names listed)
  | some shape =>
      rw [List.mem_filter]
      refine ⟨fun present => ⟨?_, present⟩, And.right⟩
      cases declared : shape.field? name with
      | some spec => exact Shape.mem_names_of_field? declared
      | none => simp [has, typed, declared] at present

theorem names_untyped (untyped : record.shape = none) : record.names = record.fields.names := by
  simp only [names, untyped]

theorem names_typed (typed : record.shape = some shape) :
    record.names = shape.fields.names.filter record.has := by
  simp only [names, typed]

/-- A declared name is listed just when its declaration shows a value there, and that is the value
which the record answers. -/
theorem names_readable_of {declared : Entries FieldSpec} {answer : Getter → Value}
    (read : ∀ entry ∈ declared,
      record.getBy accessors entry.1 = entry.2.readBy answer entry.1 record.fields) :
    ((declared.names.filter record.has).map fun name => (name, record.getBy accessors name)) =
      (declared.filterMap fun (name, spec) =>
        (spec.readBy answer name record.fields).map fun value => (name, value)).map
          fun entry => (entry.1, some entry.2) := by
  induction declared with
  | nil => rfl
  | cons entry rest ih =>
      obtain ⟨name, spec⟩ := entry
      have here : record.getBy accessors name = spec.readBy answer name record.fields :=
        read (name, spec) List.mem_cons_self
      have tail := ih fun entry member => read entry (List.mem_cons_of_mem _ member)
      rw [Entries.names] at tail ⊢
      rw [List.map_cons, List.filter_cons, has_eq_getBy accessors, here]
      cases answered : spec.readBy answer name record.fields with
      | none => simpa [answered] using tail
      | some value => simpa [here, answered] using tail

/-- What a record has, answers, lists and shows is one and the same. -/
structure Coherent (accessors : Accessors) (record : Record) : Prop where
  answers : ∀ name, record.has name ↔ (record.getBy accessors name).isSome
  lists : ∀ name, record.has name ↔ name ∈ record.names
  nodup : record.names.Nodup
  /-- The snapshot has the names of the list, in its order, with what is answered there. -/
  shows : (record.names.map fun name => (name, record.getBy accessors name)) =
    (record.snapshotBy accessors).map fun entry => (entry.1, some entry.2)
  values : record.names.map (record.getBy accessors) = (record.valuesBy accessors).map some

theorem snapshotBy_eq (accessors : Accessors) (stored : record.fields.Distinct)
    (declared : ∀ shape, record.shape = some shape → shape.fields.Distinct) :
    (record.names.map fun name => (name, record.getBy accessors name)) =
      (record.snapshotBy accessors).map fun entry => (entry.1, some entry.2) := by
  obtain ⟨shape, fields⟩ := record
  cases shape with
  | none =>
      refine (List.map_map).trans (List.map_congr_left fun entry member => ?_)
      exact Prod.ext rfl (Entries.get?_of_mem stored member)
  | some shape =>
      rw [names_typed rfl]
      refine names_readable_of fun entry member => ?_
      have found : shape.field? entry.1 = some entry.2 :=
        Entries.get?_of_mem (declared shape rfl) member
      change (shape.field? entry.1).bind _ = _
      rw [found]
      rfl

theorem coherent_of_distinct (accessors : Accessors) (stored : record.fields.Distinct)
    (declared : ∀ shape, record.shape = some shape → shape.fields.Distinct) :
    record.Coherent accessors := by
  have shows := snapshotBy_eq accessors stored declared
  refine ⟨fun name => by rw [has_eq_getBy accessors], has_iff_mem_names record, ?_, shows, ?_⟩
  · cases typed : record.shape with
    | none =>
        rw [names_untyped typed]
        exact stored
    | some shape =>
        rw [names_typed typed]
        exact (declared shape typed).filter _
  · have answered := congrArg (List.map (·.2)) shows
    rw [List.map_map, List.map_map] at answered
    rw [valuesBy, List.map_map]
    exact answered

theorem distinct_made {shape : Option Shape}
    (declared : ∀ given, shape = some given → given.fields.Distinct) :
    (made shape).fields.Distinct := by
  cases shape with
  | none => exact List.nodup_nil
  | some shape =>
      have same : Entries.names (made (some shape)).fields = shape.fields.names :=
        List.map_map
      rw [Entries.Distinct, same]
      exact declared shape rfl

theorem made_shape (shape : Option Shape) : (made shape).shape = shape := by
  cases shape <;> rfl

/-- Every record is coherent, whatever operations have led to it from a new one. It lists its
names in the order of insertion, or of declaration when it has a shape. An operation changes no
field but the one that it names, and nothing at all if it is refused; and through the interface
alone a record of a shape never comes to hold a field that the shape does not declare. -/
theorem editAll_coherent (accessors : Accessors) (declared : Option Shape)
    (proper : ∀ shape, declared = some shape → shape.fields.Distinct ∧ accessors.KeepTo shape)
    (edits : List Edit) :
    let record := (made declared).editAll accessors edits
    record.Coherent accessors ∧
    (declared = none → record.names = edits.foldl arrive []) ∧
    (∀ shape, declared = some shape → record.names.Sublist shape.fields.names) ∧
    (∀ change,
      (∀ failure, record.attempt accessors change = .error failure →
        record.edit accessors change = record) ∧
      ∀ field, field ≠ change.name →
        (record.edit accessors change).stored? field = record.stored? field) ∧
    ((∀ change ∈ edits, change.isProperty) → ∀ shape, declared = some shape →
      ∀ name ∈ record.fields.names, name ∈ shape.fields.names) := by
  intro record
  have keeps : (made declared).KeepsTo accessors :=
    keepsTo_made fun shape given => (proper shape given).2
  have typed : record.shape = declared := (editAll_shape keeps edits).trans (made_shape declared)
  have keepsAfter : record.KeepsTo accessors :=
    fun shape given => (proper shape (typed ▸ given)).2
  have distinct : record.fields.Distinct :=
    editAll_induction keeps (distinct_made fun shape given => (proper shape given).1)
      fun _ _ _ _ _ comes before => comes.distinct before
  refine ⟨coherent_of_distinct accessors distinct fun shape given =>
    (proper shape (typed ▸ given)).1, ?_, ?_,
    fun change => ⟨?_, (comes_edit keepsAfter change).stored?_eq⟩, ?_⟩
  · intro untyped
    subst untyped
    rw [names_untyped typed]
    exact names_editAll_dynamic rfl edits
  · intro shape given
    rw [names_typed (typed.trans given)]
    exact List.filter_sublist
  · intro failure refused
    rw [edit, refused]
    rfl
  · intro property shape given
    subst given
    refine editAll_induction keeps ?_ fun change member _ after same comes before =>
      comes.names_declared (property change member) same before
    intro name listed
    rwa [show Entries.names (made (some shape)).fields = shape.fields.names from List.map_map]
      at listed

end Runs

/-- A city is renamed, has a hidden field stored, and refuses an undeclared field and the removal
of its name, which a getter answers for. -/
theorem editAll_coherent_city :
    let shape : Shape :=
      { name := "City"
        fields := [("id", { visibility := .shown }), ("secret", { visibility := .hidden }),
          ("name", { visibility := .hidden, getter := some ⟨"name", .withType⟩,
                     setter := some ⟨"name", .trimmed⟩ })] }
    let edits : List Edit := [.set "name" (.string " novgorod"), .store "secret" (.bool true),
      .set "population" .null, .remove "name"]
    let record := (made (some shape)).editAll .standard edits
    (shape.fields.Distinct ∧ Accessors.standard.KeepTo shape) ∧ record.Coherent .standard ∧
      record.names = ["id", "name"] ∧
      record.get? "name" = some (.list [.string "novgorod", .string "string"]) ∧
      record.edit .standard (.remove "name") = record ∧
      (record.edit .standard (.remove "id")).stored? "secret" = some (.bool true) := by
  intro shape edits record
  have proper : ∀ given, some shape = some given →
      given.fields.Distinct ∧ Accessors.standard.KeepTo given := by
    rintro _ ⟨⟩
    refine ⟨by unfold Entries.Distinct; decide, Accessors.standard_keepTo ?_⟩
    simp only [Shape.OwnAccessors, shape, List.mem_cons, Prod.mk.injEq, List.not_mem_nil, or_false]
    rintro name spec (⟨rfl, rfl⟩ | ⟨rfl, rfl⟩ | ⟨rfl, rfl⟩) <;> simp
  obtain ⟨coherent, -, -, framed, -⟩ := editAll_coherent .standard (some shape) proper edits
  have refused : record.attempt .standard (.remove "name") =
      .error (.notWritable "name" "City" .fixedField) := rfl
  exact ⟨proper shape rfl, coherent, by decide, rfl, (framed _).1 _ refused,
    ((framed (.remove "id")).2 "secret" (by decide)).trans rfl⟩

end Record

end Reshape
