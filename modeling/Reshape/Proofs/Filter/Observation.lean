import Reshape.Proofs.Filter.BuiltIn
import Reshape.Proofs.Read.Observation

namespace Reshape

namespace Filter

variable {left : Value} {items : List Value}

theorem leaf_of_string? (found : (string? left).isSome) : left.isContainer = false := by
  cases left with
  | string text => rfl
  | null | bool | number | list | map | record => contradiction

theorem leaf_of_number? (found : (number? left).isSome) : left.isContainer = false := by
  cases left with
  | number value => rfl
  | null | bool | string | list | map | record => contradiction

theorem leaves_of_floats {values : List Float} {position : Nat}
    (read : floats items position = .ok values) : ∀ item ∈ items, item.isContainer = false := by
  induction items generalizing position values with
  | nil => simp
  | cons item rest ih =>
      rw [floats] at read
      split at read
      · rename_i number found
        obtain ⟨others, below, _⟩ := map_eq_ok_iff.mp read
        exact List.forall_mem_cons.mpr ⟨leaf_of_number? (by simp [found]), ih below⟩
      · contradiction

end Filter

variable [Record.Accessors]

/-- Errors of one kind and with the same messages, whatever values they carry. -/
structure Error.Matches (left right : Error) : Prop where
  kind : left.kind = right.kind
  messages : left.messages = right.messages

theorem Error.Matches.refl (error : Error) : error.Matches error := ⟨rfl, rfl⟩

theorem Error.message_head (error : Error) : error.messages.head? = some error.message := by
  cases error <;> rfl

theorem Error.Matches.message {left right : Error} (matched : left.Matches right) :
    left.message = right.message := by
  have heads := congrArg List.head? matched.messages
  rw [message_head, message_head] at heads
  exact Option.some.inj heads

theorem Error.malformedStep_matches (fault : StepFault) {left right : Value}
    (texts : left.text = right.text) :
    (malformedStep fault left).Matches (malformedStep fault right) :=
  ⟨rfl, congrArg
    (fun text => ["Unsupported filter config: " ++ fault.message ++ " (" ++ text ++ ")"]) texts⟩

theorem Error.unsupportedKey_matches {left right : Value} (names : left.typeName = right.typeName)
    (texts : left.text = right.text) : (unsupportedKey left).Matches (unsupportedKey right) :=
  ⟨rfl, congrArg₂ (fun name text => ["Unsupported key type: " ++ name ++ " (" ++ text ++ ")"])
    names texts⟩

/-- Failures for the same reason, found by the filter itself or by its lookup. -/
inductive FilterFailure.Matches : FilterFailure → FilterFailure → Prop where
  | fault (cause : FilterFault) : Matches (.fault cause) (.fault cause)
  | lookup {left right : Error} (matched : left.Matches right) :
      Matches (.lookup left) (.lookup right)

/-- Lookups of related keys in related sources end alike. -/
def Lookup.Agree (related : Value → Value → Prop) (left right : Lookup) : Prop :=
  ∀ source other key partner strict, related source other → related key partner →
    Attempt.Agree Error.Matches related (left source key strict) (right other partner strict)

structure FilterContext.Agree (related : Value → Value → Prop) (left right : FilterContext) :
    Prop where
  source : related left.source right.source
  root : related left.root right.root
  strict : left.strict = right.strict
  lookup : Lookup.Agree related left.lookup right.lookup

namespace Filter

open Value

/-- From related contexts and arguments the filter ends alike. -/
def Agrees (related : Value → Value → Prop) (filter : Filter) : Prop :=
  ∀ (left right : FilterContext) (arguments others : List Value),
    left.Agree related right → List.Forall₂ related arguments others →
    Attempt.Agree FilterFailure.Matches related (filter left arguments) (filter right others)

variable {related : Value → Value → Prop} {left right : Value} {items others : List Value}

theorem agrees_ofPure {body : FilterContext → List Value → Except FilterFault Value}
    (alike : ∀ (left right : FilterContext) (arguments others : List Value),
      related left.source right.source → List.Forall₂ related arguments others →
      Alike related (body left arguments) (body right others)) : (ofPure body).Agrees related := by
  intro first second arguments others agree each
  have outcomes := alike first second arguments others agree.source each
  unfold ofPure
  revert outcomes
  cases body first arguments <;> cases body second others
  · rintro rfl
    exact .failed (.fault _)
  · exact False.elim
  · exact False.elim
  · exact fun same => .ended same

theorem agree_ofLookup {first second : Attempt Error Value}
    (agree : Attempt.Agree Error.Matches related first second) :
    Attempt.Agree FilterFailure.Matches related (ofLookup first) (ofLookup second) := by
  cases agree with
  | unanswered => exact .unanswered
  | failed matched => exact .failed (.lookup matched)
  | ended same => exact .ended same

variable (observation : Observation related)

include observation

section Arguments

theorem agree_headD (each : List.Forall₂ related items others) :
    related (items.headD .null) (others.headD .null) := by
  cases each with
  | nil => exact observation.leaf rfl
  | cons here _ => exact here

theorem stringArgument_eq
    (each : List.Forall₂ related items others) (position : Nat) (default : String) :
    stringArgument items position default = stringArgument others position default := by
  have held := Observation.rel_getElem? each position
  unfold stringArgument
  revert held
  cases items[position]? <;> cases others[position]? <;> intro held
  · rfl
  · exact absurd held (by simp)
  · exact absurd held (by simp)
  · cases observation.paired (by simpa using held) with
    | leaf _ => rfl
    | list | map | record => rfl

theorem alike_onList (same : related left right)
    {onLeft onRight : List Value → Except FilterFault Value}
    (alike : ∀ items others, List.Forall₂ related items others →
      Alike related (onLeft items) (onRight others)) :
    Alike related (onList left onLeft) (onList right onRight) := by
  cases observation.paired same with
  | leaf scalar =>
      cases left with
      | null => exact observation.leaf rfl
      | bool | number | string => rfl
      | list | map | record => contradiction
  | list each => exact alike _ _ each
  | map | record => rfl

theorem number?_eq (same : related left right) : number? left = number? right := by
  cases observation.paired same <;> rfl

theorem eq_of_leaves (each : List.Forall₂ related items others)
    (leaves : ∀ item ∈ items, item.isContainer = false) : others = items := by
  induction each with
  | nil => rfl
  | cons here _ ih =>
      obtain ⟨scalar, rest⟩ := List.forall_mem_cons.mp leaves
      cases observation.paired here with
      | leaf _ => rw [ih rest]
      | list | map | record => contradiction

end Arguments

section Choosing

theorem const_agrees : const.Agrees related :=
  agrees_ofPure fun _ _ _ _ _ each => agree_headD observation each

theorem default_agrees : default.Agrees related := by
  apply agrees_ofPure
  intro first second arguments others same each
  rw [observation.isNull_eq same]
  split
  · exact agree_headD observation each
  · exact same

theorem lookupMode_eq (each : List.Forall₂ related items others) (strict : Bool) :
    lookupMode items strict = lookupMode others strict := by
  cases each with
  | nil => rfl
  | @cons first _ _ _ here _ =>
      cases observation.paired here with
      | leaf _ => cases first <;> rfl
      | list | map | record => rfl

theorem looksUp_eq (same : related left right) : looksUp left = looksUp right := by
  cases observation.paired same <;> rfl

theorem path_agrees : path.Agrees related := by
  intro first second arguments others agree each
  have looked := looksUp_eq observation agree.source
  cases searched : looksUp first.source with
  | true =>
      rw [path_of_looksUp searched, path_of_looksUp (looked.symm.trans searched),
        lookupMode_eq observation each, agree.strict]
      exact agree_ofLookup (agree.lookup _ _ _ _ _ agree.root agree.source)
  | false =>
      obtain ⟨source, root, strict, lookup⟩ := first
      obtain ⟨other, top, mode, further⟩ := second
      have paired : Paired related source other := observation.paired agree.source
      cases paired with
      | leaf scalar =>
          cases source with
          | null => exact .ended (observation.leaf rfl)
          | bool | number => exact .failed (.fault _)
          | string | list | map | record => contradiction
      | list => contradiction
      | map | record => exact .failed (.fault _)

end Choosing

section Reducing

theorem leaf_ofNumber? (number : Option Number) :
    related (ofNumber? number) (ofNumber? number) := by
  cases number <;> exact observation.leaf rfl

theorem integerSum?_eq (each : List.Forall₂ related items others) (total : Int) :
    integerSum? total items = integerSum? total others := by
  induction each generalizing total with
  | nil => rfl
  | cons here _ ih => simp only [integerSum?, number?_eq observation here, ih]

theorem floats_eq (each : List.Forall₂ related items others)
    (position : Nat) : floats items position = floats others position := by
  induction each generalizing position with
  | nil => rfl
  | cons here _ ih =>
      simp only [floats, number?_eq observation here, observation.typeName_eq here, ih]

theorem sum_agrees : sum.Agrees related := by
  apply agrees_ofPure
  intro first second arguments others same _
  apply alike_onList observation same
  intro items others each
  rw [integerSum?_eq observation each, floatsOf, floatsOf, floats_eq observation each]
  split
  · exact leaf_ofNumber? observation _
  · exact Alike.map_same fun values => leaf_ofNumber? observation _

theorem average_agrees : average.Agrees related := by
  apply agrees_ofPure
  intro first second arguments others same _
  apply alike_onList observation same
  intro items others each
  have empty : items.isEmpty = others.isEmpty := by cases each <;> rfl
  rw [empty, floatsOf, floatsOf, floats_eq observation each]
  split
  · exact observation.leaf rfl
  · exact Alike.map_same fun values => leaf_ofNumber? observation _

theorem count_agrees : count.Agrees related := by
  apply agrees_ofPure
  rintro ⟨source, _, _, _⟩ ⟨other, _, _, _⟩ arguments others (same : related source other) _
  have members := observation.members same
  have counted {left right : Nat} (equal : left = right) :
      Alike related (.ok (ofInt left) : Except FilterFault Value) (.ok (ofInt right)) := by
    rw [equal]
    exact leaf_ofNumber? observation _
  cases observation.paired same with
  | leaf scalar =>
      cases source with
      | null | string => exact counted rfl
      | bool | number => rfl
      | list | map | record => contradiction
  | list each => exact counted each.length_eq
  | map =>
      have each := Option.rel_some_some.mp members
      exact counted (by simpa using each.length_eq)
  | record =>
      have each := Option.rel_some_some.mp members
      exact counted (by simpa using each.length_eq)

end Reducing

section Texts

theorem plainTexts_eq
    (each : List.Forall₂ related items others) : plainTexts items = plainTexts others := by
  induction each with
  | nil => rfl
  | cons here _ ih =>
      simp only [plainTexts, observation.isContainer_eq_right here, observation.typeName_eq here,
        observation.plain_eq here, ih]

theorem join_agrees : join.Agrees related := by
  apply agrees_ofPure
  intro first second arguments others same given
  apply alike_onList observation same
  intro items partners each
  rw [stringArgument_eq observation given, plainTexts_eq observation each]
  refine Alike.bind_same fun separator => ?_
  refine Alike.bind_same fun parts => ?_
  exact observation.leaf rfl

theorem split_agrees : split.Agrees related := by
  apply agrees_ofPure
  rintro ⟨source, _, _, _⟩ ⟨other, _, _, _⟩ arguments others (same : related source other) given
  rw [stringArgument_eq observation given]
  refine Alike.bind_same fun separator => ?_
  cases observation.paired same with
  | leaf scalar =>
      cases source with
      | null => exact observation.leaf rfl
      | string text =>
          dsimp only
          split
          · exact observation.list .nil
          · apply observation.list
            exact List.forall₂_same.mpr fun part member => by
              obtain ⟨_, _, rfl⟩ := List.mem_map.mp member
              exact observation.leaf rfl
      | bool | number => rfl
      | list | map | record => contradiction
  | list | map | record => rfl

theorem inputFormat?_eq
    (each : List.Forall₂ related items others) : inputFormat? items = inputFormat? others := by
  have held := Observation.rel_getElem? each 1
  unfold inputFormat?
  rw [stringArgument_eq observation each]
  revert held
  cases items[1]? <;> cases others[1]? <;> intro held
  · rfl
  · exact absurd held (by simp)
  · exact absurd held (by simp)
  · rename_i first second
    cases observation.paired (Option.rel_some_some.mp held) with
    | leaf _ => rfl
    | list | map | record => rfl

theorem momentOf_eq (same : related left right)
    (format : Option String) : momentOf left format = momentOf right format := by
  cases observation.paired same <;> rfl

theorem date_agrees : date.Agrees related := by
  apply agrees_ofPure
  intro first second arguments others same given
  rw [observation.isNull_eq same, stringArgument_eq observation given,
    inputFormat?_eq observation given]
  split
  · exact observation.leaf rfl
  · refine Alike.bind_same fun output => ?_
    refine Alike.bind_same fun format => ?_
    rw [momentOf_eq observation same]
    refine Alike.bind_same fun moment => ?_
    cases moment.format? output with
    | some text => exact observation.leaf rfl
    | none => rfl

theorem replace_agrees : replace.Agrees related := by
  apply agrees_ofPure
  rintro ⟨source, _, _, _⟩ ⟨other, _, _, _⟩ arguments others (same : related source other) given
  have templates := stringArgument_eq observation given 1 ""
  cases given with
  | nil => rfl
  | @cons first _ _ _ here _ =>
      cases observation.paired here with
      | list | map | record => rfl
      | leaf _ =>
          cases first with
          | null | bool | number | list | map | record => rfl
          | string pattern =>
              rw [templates]
              refine Alike.bind_same fun pattern => ?_
              refine Alike.bind_same fun template => ?_
              cases Pattern.Expression.ofText? pattern with
              | none => rfl
              | some expression =>
                  cases observation.paired same with
                  | leaf _ =>
                      cases source with
                      | null | string => exact observation.leaf rfl
                      | bool | number => rfl
                      | list | map | record => contradiction
                  | list | map | record => rfl

end Texts

section Ordering

theorem string?_eq (same : related left right) : string? left = string? right := by
  cases observation.paired same <;> rfl

theorem all_string?_eq (each : List.Forall₂ related items others) :
    (items.all fun item => (string? item).isSome) =
      others.all fun item => (string? item).isSome := by
  induction each with
  | nil => rfl
  | cons here _ ih => rw [List.all_cons, List.all_cons, string?_eq observation here, ih]

theorem alike_sorted (each : List.Forall₂ related items others) :
    Alike (List.Forall₂ related) (sorted items) (sorted others) := by
  have unchanged {ascending : List Value} (leaves : ∀ item ∈ items, item.isContainer = false)
      (permuted : ∀ item ∈ ascending, item ∈ items) : List.Forall₂ related ascending ascending :=
    List.forall₂_same.mpr fun item member => observation.leaf (leaves item (permuted item member))
  unfold sorted
  rw [← all_string?_eq observation each, ← floats_eq observation each]
  split
  · rename_i texts
    have leaves : ∀ item ∈ items, item.isContainer = false := fun item member =>
      leaf_of_string? (List.all_eq_true.mp texts item member)
    rw [eq_of_leaves observation each leaves]
    exact unchanged leaves fun item member => List.mem_mergeSort.mp member
  · cases read : floats items 0 with
    | error failure => rfl
    | ok values =>
        have leaves := leaves_of_floats read
        rw [eq_of_leaves observation each leaves]
        refine unchanged leaves fun item member => ?_
        obtain ⟨placed, inside, rfl⟩ := List.mem_map.mp member
        obtain ⟨origin, given, rfl⟩ := List.mem_map.mp (List.mem_mergeSort.mp inside)
        exact given

theorem sort_agrees : sort.Agrees related := by
  apply agrees_ofPure
  intro first second arguments others same given
  apply alike_onList observation same
  intro items partners each
  rw [stringArgument_eq observation given]
  refine Alike.bind_same fun order => ?_
  refine Alike.bind_same fun descending => ?_
  refine (alike_sorted observation each).bind fun ascending upward placed => ?_
  apply observation.list
  split
  · exact List.rel_reverse placed
  · exact placed

theorem rel_firsts {kept seen : List Value}
    (before : List.Forall₂ related kept seen) (each : List.Forall₂ related items others) :
    List.Forall₂ related (firsts kept items) (firsts seen others) := by
  induction each generalizing kept seen with
  | nil => exact List.rel_reverse before
  | @cons item other _ _ here _ ih =>
      have repeated : (kept.any fun earlier => earlier.same item) =
          seen.any fun earlier => earlier.same other := by
        clear ih
        induction before with
        | nil => rfl
        | cons first _ rest => rw [List.any_cons, List.any_cons, observation.same_eq first here, rest]
      rw [firsts, firsts, repeated]
      split
      · exact ih before
      · exact ih (.cons here before)

theorem unique_agrees : unique.Agrees related := by
  apply agrees_ofPure
  intro first second arguments others same _
  apply alike_onList observation same
  intro items partners each
  exact observation.list (rel_firsts observation .nil each)

end Ordering

end Filter

theorem Registry.BuiltIn.agrees {registry : Registry} (builtIn : registry.BuiltIn) {name : String}
    {filter : Filter} (found : registry.find? name = some filter)
    {related : Value → Value → Prop} (observation : Observation related) :
    filter.Agrees related := by
  apply builtIn.cases found
  case const => exact Filter.const_agrees observation
  case path => exact Filter.path_agrees observation
  case default => exact Filter.default_agrees observation
  case sum => exact Filter.sum_agrees observation
  case average => exact Filter.average_agrees observation
  case count => exact Filter.count_agrees observation
  case join => exact Filter.join_agrees observation
  case split => exact Filter.split_agrees observation
  case sort => exact Filter.sort_agrees observation
  case unique => exact Filter.unique_agrees observation
  case date => exact Filter.date_agrees observation
  case replace => exact Filter.replace_agrees observation

end Reshape
