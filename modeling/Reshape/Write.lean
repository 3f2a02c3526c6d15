import Reshape.Access.Slot
import Reshape.Read
/-!
Writing by path. A write path holds keys only. A write answers with the root as it
stands afterwards, also when it fails: lists and maps are changed where they are, so a
failed `set` leaves the containers it has created, while a record below which a write
fails gets nothing written back.
-/

namespace Reshape

variable [Record.Accessors]

/-- The root after a write, and why the write failed if it did. -/
structure Written where
  root : Value
  failure : Option PathError := none

namespace Written

def ofResult (before : Value) : Except PathError Value → Written
  | .ok root => { root }
  | .error failure => { root := before, failure := some failure }

end Written

def keysForWriting (delimiter : Delimiter) (tokens : List Token) : Except PathError (List String) :=
  tokens.mapM fun token =>
    match token.key? with
    | some key => .ok key
    | none => .error (.invalidPath (.operatorInWrite token) (delimiter.join tokens))

namespace Value

variable (delimiter : Delimiter)

/-- The outcome of an operation on a container, blamed on a key of the path. -/
def blame (travelled : List String) (key : String) (outcome : Except AccessError Value) :
    Except PathError Value :=
  outcome.mapError (.notWritable key (delimiter.joinKeys travelled))

def putBack (travelled : List String) (key : String) (slot : Slot) (child : Written) : Written :=
  match slot, child.failure with
  | .entry container _, some failure =>
      { root := (slot.set child.root).toOption.getD container, failure := some failure }
  | .property holder _, some failure => { root := holder.toValue, failure := some failure }
  | _, none => .ofResult slot.container (blame delimiter travelled key (slot.set child.root))

/-- A null on the way is replaced by a container shaped for the key below it. -/
def containerFor (key : String) (current : Value) : Value :=
  if current.isNull then emptyFor key else current

/-- Writes a value, creating what is missing on the way to it. -/
def setAt (travelled : List String) (current : Value) (keys : List String) (value : Value) :
    Written :=
  match keys with
  | [] => { root := value }
  | [key] =>
      let container := containerFor key current
      .ofResult container (blame delimiter travelled key (container.set key value))
  | key :: next :: rest =>
      let container := containerFor key current
      match Slot.obtain container key (emptyFor next) with
      | .ok slot =>
          putBack delimiter travelled key slot
            (setAt (travelled ++ [key]) slot.get (next :: rest) value)
      | .error failure =>
          { root := container
            failure := some (.notWritable key (delimiter.joinKeys travelled) failure) }

def missing (travelled : List String) (key : String) (root : Value) : Written :=
  { root, failure := some (.notExist key (delimiter.joinKeys travelled)) }

def descend (travelled : List String) (current : Value) (key : String) (write : Value → Written) :
    Written :=
  match Slot.at? current key with
  | some slot => putBack delimiter travelled key slot (write slot.get)
  | none => missing delimiter travelled key current

def updateAt (travelled : List String) (current : Value) (keys : List String) (value : Value) :
    Written :=
  match keys with
  | [] => { root := value }
  | [key] =>
      if current.has key then
        .ofResult current (blame delimiter travelled key (current.set key value))
      else missing delimiter travelled key current
  | key :: next :: rest =>
      descend delimiter travelled current key fun child =>
        updateAt (travelled ++ [key]) child (next :: rest) value

/-- Adds an item to the value reached; null becomes a list of the item alone. The blame
for a refusal would fall on the last key of the path. -/
def pushAt (travelled : List String) (target : Value) (item : Value) : Written :=
  if target.isNull then { root := .list [item] }
  else if target.isArrayAccessible then
    let key := travelled.getLast?.getD ""
    .ofResult target (blame delimiter travelled.dropLast key (target.push item))
  else
    { root := target
      failure := some (.notArrayAccessible (delimiter.joinKeys travelled) target.typeName) }

/-- Appends to the value at a path. A last key that is missing is created as a list. -/
def appendAt (travelled : List String) (current : Value) (keys : List String) (item : Value) :
    Written :=
  match keys with
  | [] => pushAt delimiter travelled current item
  | [key] =>
      if current.has key then
        descend delimiter travelled current key fun target =>
          pushAt delimiter (travelled ++ [key]) target item
      else if current.isContainer then
        .ofResult current (blame delimiter travelled key (current.set key (.list [item])))
      else missing delimiter travelled key current
  | key :: next :: rest =>
      descend delimiter travelled current key fun child =>
        appendAt (travelled ++ [key]) child (next :: rest) item

def deleteAt (travelled : List String) (current : Value) (keys : List String) : Written :=
  match keys with
  | [] => { root := current }
  | [key] => .ofResult current (blame delimiter travelled key (current.delete key))
  | key :: next :: rest =>
      descend delimiter travelled current key fun child =>
        deleteAt (travelled ++ [key]) child (next :: rest)

/-- Runs a write on the keys of a path, or fails with the root unchanged. -/
def writing (root : Value) (path : PathForm) (write : List Token → List String → Written) :
    Written :=
  match path.parse delimiter with
  | .error failure => { root, failure := some failure }
  | .ok tokens =>
      match keysForWriting delimiter tokens with
      | .error failure => { root, failure := some failure }
      | .ok keys => write tokens keys

/-- Writes a value at a path; the empty path replaces the root. -/
def writeSet (root : Value) (path : PathForm) (value : Value) : Written :=
  writing delimiter root path fun _ keys => setAt delimiter [] root keys value

def writeUpdate (root : Value) (path : PathForm) (value : Value) : Written :=
  writing delimiter root path fun _ keys => updateAt delimiter [] root keys value

def writeAppend (root : Value) (path : PathForm) (item : Value) : Written :=
  writing delimiter root path fun _ keys => appendAt delimiter [] root keys item

/-- Removes the value at a path. A path that leads nowhere is an error in strict mode only. -/
def writeDelete (root : Value) (strict : Bool) (path : PathForm) : Written :=
  writing delimiter root path fun tokens keys =>
    if keys.isEmpty then { root, failure := some (.invalidPath .rootDeletion "") }
    else
      match root.resolve delimiter strict tokens with
      | .error failure => { root, failure := some failure }
      | .ok none => { root }
      | .ok (some _) => deleteAt delimiter [] root keys

end Value

end Reshape
