import Reshape.Proofs.Bounds.Read
import Reshape.Proofs.Write.Dynamic
import Reshape.Proofs.Write.Update

namespace Reshape

/-- The keys of a write path, beside the tokens that they are taken from. -/
structure Writer where
  delimiter : Delimiter
  tokens : List Token
  keys : List String
  literal : tokens = keys.map .key

namespace Writer

def ofTokens (delimiter : Delimiter) (tokens : List Token) : Except PathError Writer :=
  match literal : keysForWriting delimiter tokens with
  | .ok keys => .ok { delimiter, tokens, keys, literal := keysForWriting_eq_ok literal }
  | .error failure => .error failure

theorem ofTokens_eq_ok {delimiter : Delimiter} {tokens : List Token} {writer : Writer}
    (made : ofTokens delimiter tokens = .ok writer) :
    writer.delimiter = delimiter ∧ writer.tokens = tokens ∧
      keysForWriting delimiter tokens = .ok writer.keys := by
  unfold ofTokens at made
  split at made
  · rename_i keys literal
    cases made
    exact ⟨rfl, rfl, literal⟩
  · contradiction

theorem ofTokens_eq_error {delimiter : Delimiter} {tokens : List Token} {failure : PathError}
    (refused : ofTokens delimiter tokens = .error failure) :
    keysForWriting delimiter tokens = .error failure := by
  unfold ofTokens at refused
  split at refused
  · contradiction
  · rename_i reason operator
    cases refused
    exact operator

variable (writer : Writer)

def travelledAt : Nat → Guarded String := travelledGuarded writer.delimiter writer.tokens

/-- The error for a refusal at the key at a position. -/
def refusal (position : Nat) (reason : AccessError) : Guarded PathError := do
  let ⟨key, _⟩ ← Guarded.element writer.keys position
  return .notWritable key (← writer.travelledAt position) reason

/-- What an operation at a position leaves of a container. -/
def settle (position : Nat) (container : Value) : Except AccessError Value → Guarded Written
  | .ok root => return { root }
  | .error reason => do
      return { root := container, failure := some (← writer.refusal position reason) }

def missingAt (position : Nat) (key : String) (root : Value) : Guarded Written := do
  return { root, failure := some (.notExist key (← writer.travelledAt position)) }

def putBackAt [Record.Accessors] (position : Nat) (slot : Slot) (child : Written) :
    Guarded Written :=
  match slot, child.failure with
  | .entry container key, some failure =>
      return { root := (Slot.set (.entry container key) child.root).toOption.getD container
               failure := some failure }
  | .property holder _, some failure => return { root := holder.toValue, failure := some failure }
  | slot, none => writer.settle position slot.container (slot.set child.root)

def descendAt [Record.Accessors] (position : Nat) (current : Value)
    (write : Value → Guarded Written) :
    Guarded Written := do
  let ⟨key, _⟩ ← Guarded.element writer.keys position
  match Slot.at? current key with
  | some slot => writer.putBackAt position slot (← write slot.get)
  | none => writer.missingAt position key current

def setGuarded [Record.Accessors] (position : Nat) (current value : Value) : Guarded Written := do
  let ⟨key, found⟩ ← Guarded.element writer.keys position
  have _ : position < writer.keys.length := (List.getElem?_eq_some_iff.mp found).1
  let container := Value.containerFor key current
  if position + 1 = writer.keys.length then
    writer.settle position container (← container.setGuarded key value)
  else
    let ⟨next, _⟩ ← Guarded.element writer.keys (position + 1)
    match ← Slot.obtainGuarded container key (.emptyFor next) with
    | .ok slot => writer.putBackAt position slot (← setGuarded (position + 1) slot.get value)
    | .error reason =>
        return { root := container, failure := some (← writer.refusal position reason) }
termination_by writer.keys.length - position

def updateGuarded [Record.Accessors] (position : Nat) (current value : Value) :
    Guarded Written := do
  let ⟨key, found⟩ ← Guarded.element writer.keys position
  have _ : position < writer.keys.length := (List.getElem?_eq_some_iff.mp found).1
  if current.has key then
    if position + 1 = writer.keys.length then
      writer.settle position current (← current.setGuarded key value)
    else
      writer.descendAt position current fun child => updateGuarded (position + 1) child value
  else writer.missingAt position key current
termination_by writer.keys.length - position

def pushGuarded (position : Nat) (target item : Value) : Guarded Written := do
  if target.isNull then return { root := .list [item] }
  else if target.isArrayAccessible then
    writer.settle (position - 1) target (← target.pushGuarded item)
  else
    let failure := .notArrayAccessible (← writer.travelledAt position) target.typeName
    return { root := target, failure := some failure }

def appendGuarded [Record.Accessors] (position : Nat) (current item : Value) : Guarded Written := do
  let ⟨key, found⟩ ← Guarded.element writer.keys position
  have _ : position < writer.keys.length := (List.getElem?_eq_some_iff.mp found).1
  if current.has key then
    if position + 1 = writer.keys.length then
      writer.descendAt position current fun target => writer.pushGuarded (position + 1) target item
    else
      writer.descendAt position current fun child => appendGuarded (position + 1) child item
  else if position + 1 = writer.keys.length ∧ current.isContainer then
    writer.settle position current (← current.setGuarded key (.list [item]))
  else writer.missingAt position key current
termination_by writer.keys.length - position

def deleteGuarded [Record.Accessors] (position : Nat) (current : Value) : Guarded Written := do
  let ⟨key, found⟩ ← Guarded.element writer.keys position
  have _ : position < writer.keys.length := (List.getElem?_eq_some_iff.mp found).1
  if position + 1 = writer.keys.length then
    writer.settle position current (← current.deleteGuarded key)
  else writer.descendAt position current fun child => deleteGuarded (position + 1) child
termination_by writer.keys.length - position

open Value

variable {writer} {before rest : List String} {key : String} {current value item : Value}

theorem key_at (spelled : writer.keys = before ++ key :: rest) :
    writer.keys[before.length]? = some key := by
  simp [spelled]

theorem travelledAt_eq (spelled : writer.keys = before ++ rest) :
    writer.travelledAt before.length = .ok (writer.delimiter.joinKeys before) := by
  have inside : before.length ≤ writer.tokens.length := by
    rw [writer.literal, spelled, List.length_map, List.length_append]
    exact Nat.le_add_right _ _
  rw [travelledAt, travelledGuarded_eq inside, writer.literal, spelled, ← List.map_take,
    List.take_left, Delimiter.joinKeys_eq]

theorem refusal_eq (spelled : writer.keys = before ++ key :: rest) (reason : AccessError) :
    writer.refusal before.length reason =
      .ok (.notWritable key (writer.delimiter.joinKeys before) reason) := by
  rw [refusal, Guarded.element_eq (key_at spelled), travelledAt_eq spelled]
  rfl

theorem settle_eq (spelled : writer.keys = before ++ key :: rest) (container : Value)
    (outcome : Except AccessError Value) :
    writer.settle before.length container outcome =
      .ok (.ofResult container (blame writer.delimiter before key outcome)) := by
  cases outcome with
  | ok root => rfl
  | error reason =>
      rw [settle, refusal_eq spelled]
      rfl

theorem missingAt_eq (spelled : writer.keys = before ++ rest) (key : String) (root : Value) :
    writer.missingAt before.length key root =
      .ok (missing writer.delimiter before key root) := by
  rw [missingAt, travelledAt_eq spelled]
  rfl

theorem putBackAt_eq [Record.Accessors] (spelled : writer.keys = before ++ key :: rest)
    (slot : Slot)
    (child : Written) :
    writer.putBackAt before.length slot child =
      .ok (putBack writer.delimiter before key slot child) := by
  unfold putBackAt putBack
  cases child.failure with
  | some failure => cases slot <;> rfl
  | none => cases slot <;> exact settle_eq spelled _ _

theorem descendAt_eq [Record.Accessors] (spelled : writer.keys = before ++ key :: rest)
    (current : Value)
    {guarded : Value → Guarded Written} {write : Value → Written}
    (agree : ∀ slot, Slot.at? current key = some slot →
      guarded slot.get = .ok (write slot.get)) :
    writer.descendAt before.length current guarded =
      .ok (descend writer.delimiter before current key write) := by
  rw [descendAt, Guarded.element_eq (key_at spelled), Guarded.ok_bind, descend]
  dsimp only
  cases place : Slot.at? current key with
  | none => exact missingAt_eq spelled key current
  | some slot =>
      dsimp only
      rw [agree slot place, Guarded.ok_bind, putBackAt_eq spelled]

theorem length_next (before : List String) (key : String) :
    (before ++ [key]).length = before.length + 1 := List.length_append

theorem spelled_next (spelled : writer.keys = before ++ key :: rest) :
    writer.keys = (before ++ [key]) ++ rest := by
  rw [spelled, List.append_assoc, List.singleton_append]

theorem last_iff (spelled : writer.keys = before ++ key :: rest) :
    before.length + 1 = writer.keys.length ↔ rest = [] := by
  rw [spelled_next spelled, List.length_append, length_next, ← List.length_eq_zero_iff]
  omega

theorem setGuarded_eq [Record.Accessors] (spelled : writer.keys = before ++ key :: rest) :
    writer.setGuarded before.length current value =
      .ok (setAt writer.delimiter before current (key :: rest) value) := by
  induction rest generalizing before key current with
  | nil =>
      rw [setGuarded, Guarded.element_eq (key_at spelled), Guarded.ok_bind]
      simp only [if_pos ((last_iff spelled).mpr rfl), Value.setGuarded_eq, Guarded.ok_bind]
      exact settle_eq spelled _ _
  | cons next others ih =>
      have further := spelled_next spelled
      have more : ¬ before.length + 1 = writer.keys.length := by simp [last_iff spelled]
      have second := key_at further
      rw [length_next] at second
      rw [setGuarded, Guarded.element_eq (key_at spelled), Guarded.ok_bind]
      simp only [if_neg more, Guarded.element_eq second, Guarded.ok_bind,
        Slot.obtainGuarded_eq, setAt]
      cases Slot.obtain (containerFor key current) key (emptyFor next) with
      | ok slot =>
          have below := @ih (before ++ [key]) next slot.get further
          rw [length_next] at below
          dsimp only
          rw [below, Guarded.ok_bind, putBackAt_eq spelled]
      | error reason =>
          dsimp only
          rw [refusal_eq spelled]
          rfl

theorem updateGuarded_eq [Record.Accessors] (spelled : writer.keys = before ++ key :: rest) :
    writer.updateGuarded before.length current value =
      .ok (updateAt writer.delimiter before current (key :: rest) value) := by
  induction rest generalizing before key current with
  | nil =>
      rw [updateGuarded, Guarded.element_eq (key_at spelled), Guarded.ok_bind, updateAt]
      simp only [if_pos ((last_iff spelled).mpr rfl), Value.setGuarded_eq, Guarded.ok_bind]
      split
      · exact settle_eq spelled _ _
      · exact missingAt_eq spelled key current
  | cons next others ih =>
      have further := spelled_next spelled
      have more : ¬ before.length + 1 = writer.keys.length := by simp [last_iff spelled]
      rw [updateGuarded, Guarded.element_eq (key_at spelled), Guarded.ok_bind, updateAt]
      simp only [if_neg more]
      split
      · refine descendAt_eq spelled current fun slot _ => ?_
        have below := @ih (before ++ [key]) next slot.get further
        rwa [length_next] at below
      · rename_i unread
        rw [missingAt_eq spelled, descend, Slot.at?_eq, if_neg unread]

theorem pushGuarded_eq (spelled : writer.keys = before ++ rest)
    (unexhausted : ∀ entries, current = .map entries → Unexhausted entries) :
    writer.pushGuarded before.length current item =
      .ok (pushAt writer.delimiter before current item) := by
  cases current with
  | null | list => rfl
  | map entries =>
      rw [pushGuarded, Value.pushGuarded_eq unexhausted]
      rfl
  | bool | number | string | record =>
      rw [pushGuarded, travelledAt_eq spelled]
      rfl

theorem appendGuarded_eq [Record.Accessors] (spelled : writer.keys = before ++ key :: rest)
    (unexhausted : ∀ entries, current.at? (key :: rest) = some (.map entries) →
      Unexhausted entries) :
    writer.appendGuarded before.length current item =
      .ok (appendAt writer.delimiter before current (key :: rest) item) := by
  induction rest generalizing before key current with
  | nil =>
      have last := eq_true ((last_iff spelled).mpr rfl)
      rw [appendGuarded, Guarded.element_eq (key_at spelled), Guarded.ok_bind, appendAt]
      simp only [last, if_true, true_and, Value.setGuarded_eq, Guarded.ok_bind]
      split
      · refine descendAt_eq spelled current fun slot place => ?_
        have pushed := @pushGuarded_eq writer (before ++ [key]) [] slot.get item
          (spelled_next spelled) fun entries same => unexhausted entries (by
            rw [at?, Slot.get?_of_at? place, same]
            rfl)
        rwa [length_next] at pushed
      · split
        · exact settle_eq spelled _ _
        · exact missingAt_eq spelled key current
  | cons next others ih =>
      have further := spelled_next spelled
      have more : ¬ before.length + 1 = writer.keys.length := by simp [last_iff spelled]
      rw [appendGuarded, Guarded.element_eq (key_at spelled), Guarded.ok_bind, appendAt]
      simp only [more, if_false, false_and]
      split
      · refine descendAt_eq spelled current fun slot place => ?_
        have below := @ih (before ++ [key]) next slot.get further fun entries reached =>
          unexhausted entries (by
            rw [at?, Slot.get?_of_at? place]
            exact reached)
        rwa [length_next] at below
      · rename_i unread
        rw [missingAt_eq spelled, descend, Slot.at?_eq, if_neg unread]

theorem deleteGuarded_eq [Record.Accessors] (spelled : writer.keys = before ++ key :: rest) :
    writer.deleteGuarded before.length current =
      .ok (deleteAt writer.delimiter before current (key :: rest)) := by
  induction rest generalizing before key current with
  | nil =>
      rw [deleteGuarded, Guarded.element_eq (key_at spelled), Guarded.ok_bind]
      simp only [if_pos ((last_iff spelled).mpr rfl), Value.deleteGuarded_eq, Guarded.ok_bind]
      exact settle_eq spelled _ _
  | cons next others ih =>
      have further := spelled_next spelled
      have more : ¬ before.length + 1 = writer.keys.length := by simp [last_iff spelled]
      rw [deleteGuarded, Guarded.element_eq (key_at spelled), Guarded.ok_bind]
      simp only [if_neg more]
      refine descendAt_eq spelled current fun slot _ => ?_
      have below := @ih (before ++ [key]) next slot.get further
      rwa [length_next] at below

end Writer

namespace Value

section

variable [Record.Accessors] (delimiter : Delimiter) (root : Value) (path : PathForm) (value : Value)

def writingGuarded (write : Writer → Guarded Written) : Guarded Written :=
  match path.parse delimiter with
  | .error failure => return { root, failure := some failure }
  | .ok tokens =>
      match Writer.ofTokens delimiter tokens with
      | .error failure => return { root, failure := some failure }
      | .ok writer => write writer

def writeSetGuarded : Guarded Written :=
  writingGuarded delimiter root path fun writer =>
    if writer.keys.isEmpty then return { root := value } else writer.setGuarded 0 root value

def writeUpdateGuarded : Guarded Written :=
  writingGuarded delimiter root path fun writer =>
    if writer.keys.isEmpty then return { root := value } else writer.updateGuarded 0 root value

def writeAppendGuarded : Guarded Written :=
  writingGuarded delimiter root path fun writer =>
    if writer.keys.isEmpty then writer.pushGuarded 0 root value
    else writer.appendGuarded 0 root value

def writeDeleteGuarded (strict : Bool) : Guarded Written :=
  writingGuarded delimiter root path fun writer =>
    if writer.keys.isEmpty then
      return { root, failure := some (.invalidPath .rootDeletion "") }
    else do
      match ← (root.resolveGuarded writer.delimiter strict writer.tokens).run with
      | .error failure => return { root, failure := some failure }
      | .ok none => return { root }
      | .ok (some _) => writer.deleteGuarded 0 root

variable {delimiter root path value}

theorem writingGuarded_eq {guarded : Writer → Guarded Written}
    {write : List Token → List String → Written}
    (agree : ∀ writer, writer.delimiter = delimiter → path.parse delimiter = .ok writer.tokens →
      guarded writer = .ok (write writer.tokens writer.keys)) :
    writingGuarded delimiter root path guarded = .ok (writing delimiter root path write) := by
  unfold writingGuarded writing
  cases parsed : path.parse delimiter with
  | error failure => rfl
  | ok tokens =>
      cases made : Writer.ofTokens delimiter tokens with
      | error failure =>
          simp only [made, Writer.ofTokens_eq_error made]
          rfl
      | ok writer =>
          obtain ⟨same, rfl, keyed⟩ := Writer.ofTokens_eq_ok made
          simp only [made, keyed]
          exact agree writer same parsed

theorem writeSetGuarded_eq :
    writeSetGuarded delimiter root path value = .ok (writeSet delimiter root path value) := by
  refine writingGuarded_eq fun writer same _ => ?_
  subst same
  cases spelled : writer.keys with
  | nil => rfl
  | cons key rest => exact @Writer.setGuarded_eq writer [] rest key root value _ spelled

theorem writeUpdateGuarded_eq :
    writeUpdateGuarded delimiter root path value =
      .ok (writeUpdate delimiter root path value) := by
  refine writingGuarded_eq fun writer same _ => ?_
  subst same
  cases spelled : writer.keys with
  | nil => rfl
  | cons key rest => exact @Writer.updateGuarded_eq writer [] rest key root value _ spelled

theorem writeAppendGuarded_eq
    (unexhausted : ∀ entries, root.lookup? delimiter path = some (.map entries) →
      Unexhausted entries) :
    writeAppendGuarded delimiter root path value =
      .ok (writeAppend delimiter root path value) := by
  refine writingGuarded_eq fun writer same parsed => ?_
  subst same
  rw [writer.literal] at parsed
  rw [lookup?_keys writer.delimiter root writer.keys parsed] at unexhausted
  cases spelled : writer.keys with
  | nil =>
      rw [spelled] at unexhausted
      exact @Writer.pushGuarded_eq writer [] [] root value spelled fun entries same =>
        unexhausted entries (congrArg some same)
  | cons key rest =>
      rw [spelled] at unexhausted
      exact @Writer.appendGuarded_eq writer [] rest key root value _ spelled unexhausted

theorem writeDeleteGuarded_eq (strict : Bool) :
    writeDeleteGuarded delimiter root path strict =
      .ok (writeDelete delimiter root strict path) := by
  refine writingGuarded_eq fun writer same _ => ?_
  subst same
  rw [resolveGuarded_eq]
  cases spelled : writer.keys with
  | nil => rfl
  | cons key rest =>
      have deleted := @Writer.deleteGuarded_eq writer [] rest key root _ spelled
      cases root.resolve writer.delimiter strict writer.tokens with
      | error failure => rfl
      | ok found =>
          cases found with
          | none => rfl
          | some found => exact deleted

/-- No operation by path makes a fault, whatever the root, the path and the value are: every
window, slice and position lies inside of its list, no count of open groups goes below none, and
an error finds the key that it names. So each answers as it does without the checks. An append
that reaches a map needs a number behind the largest index of that map. -/
theorem accesses_in_bounds (delimiter : Delimiter) (root : Value) (path : PathForm)
    (value : Value) :
    (∀ strict, (root.readGuarded delimiter strict path).run =
      .ok (root.read delimiter strict path)) ∧
    root.existsGuarded delimiter path = .ok (root.pathExists delimiter path) ∧
    root.writeSetGuarded delimiter path value = .ok (root.writeSet delimiter path value) ∧
    root.writeUpdateGuarded delimiter path value = .ok (root.writeUpdate delimiter path value) ∧
    ((∀ entries, root.lookup? delimiter path = some (.map entries) → Unexhausted entries) →
      root.writeAppendGuarded delimiter path value =
        .ok (root.writeAppend delimiter path value)) ∧
    (∀ strict, root.writeDeleteGuarded delimiter path strict =
      .ok (root.writeDelete delimiter strict path)) := by
  refine ⟨fun strict => ?_, existsGuarded_eq delimiter root path, writeSetGuarded_eq,
    writeUpdateGuarded_eq, writeAppendGuarded_eq, writeDeleteGuarded_eq⟩
  rw [readGuarded_eq]
  rfl

end

/-- Behind the largest index but one there is room for an item. -/
theorem accesses_in_bounds_last :
    let log : List (String × Value) := [("18446744073709551614", .null)]
    let root : Value := .map [("jobs", .list [.map log])]
    (∀ entries, root.lookup? .dot (.text "jobs.0") = some (.map entries) → Unexhausted entries) ∧
    root.writeAppendGuarded .dot (.text "jobs.0") .null =
      .ok (root.writeAppend .dot (.text "jobs.0") .null) := by
  intro log root
  have reached : root.lookup? .dot (.text "jobs.0") = some (.map log) :=
    lookup?_keys .dot root ["jobs", "0"] rfl
  have unexhausted : ∀ entries, root.lookup? .dot (.text "jobs.0") = some (.map entries) →
      Unexhausted entries := by
    intro entries found
    rw [reached] at found
    cases found
    unfold Unexhausted
    decide
  exact ⟨unexhausted, (accesses_in_bounds .dot root (.text "jobs.0") .null).2.2.2.2.1 unexhausted⟩

example :
    (Value.map [("18446744073709551615", .null)]).writeAppendGuarded .dot (.tokens []) .null =
      .error .overflow := rfl

end Value

end Reshape
