import Reshape.Error
import Reshape.Proofs.Path.Grammar
import Reshape.Read

namespace Reshape.Path

/-- What is not found: an error in strict mode, else nothing. -/
def absent (strict : Bool) (kind : ErrorKind) : Except ErrorKind (Option Value) :=
  if strict then .error kind else .ok none

variable [Record.Accessors]

/-- What a member adds to a merge: its members, and nothing in lenient mode if it has none. -/
def membersOf (strict : Bool) (member : Value) : Except ErrorKind (List Value) :=
  match member.members? with
  | some members => .ok members
  | none => if strict then .error .pathNotArrayAccessible else .ok []

mutual

def Step.evaluate (strict : Bool) : Step → Value → Except ErrorKind (Option Value)
  | .key name, current =>
      match current.get? name with
      | some child => .ok (some child)
      | none => absent strict .pathNotExist
  | .flatten, current =>
      match current.members? with
      | some members => do
          let inner ← members.mapM (membersOf strict)
          return some (.list inner.flatten)
      | none => absent strict .pathNotArrayAccessible
  | .group body, current =>
      match current.members? with
      | some members => do
          let found ← members.mapM (evaluate strict body)
          return some (.list (found.filterMap id))
      | none => absent strict .pathNotArrayAccessible

/-- The value that steps find one after the other. The first that finds nothing ends them. -/
def evaluate (strict : Bool) : List Step → Value → Except ErrorKind (Option Value)
  | [], current => .ok (some current)
  | step :: rest, current => do
      match ← step.evaluate strict current with
      | some next => evaluate strict rest next
      | none => return none

end

variable {strict : Bool} {rest : List Step} {current : Value}

theorem evaluate_of_absent {step : Step} {kind : ErrorKind}
    (missing : step.evaluate strict current = absent strict kind) :
    evaluate strict (step :: rest) current = absent strict kind := by
  rw [evaluate, missing]
  cases strict <;> rfl

theorem evaluate_key {name : String} {child : Value} (found : current.get? name = some child) :
    evaluate strict (.key name :: rest) current = evaluate strict rest child := by
  rw [evaluate, Step.evaluate, found]
  rfl

theorem evaluate_key_absent {name : String} (missing : current.get? name = none) :
    evaluate strict (.key name :: rest) current = absent strict .pathNotExist :=
  evaluate_of_absent (by rw [Step.evaluate, missing])

theorem evaluate_flatten {members : List Value} (found : current.members? = some members) :
    evaluate strict (.flatten :: rest) current =
      ((members.mapM (membersOf strict)).map List.flatten >>= fun merged =>
        evaluate strict rest (.list merged)) := by
  rw [evaluate, Step.evaluate, found]
  dsimp only
  cases members.mapM (membersOf strict) <;> rfl

theorem evaluate_flatten_absent (missing : current.members? = none) :
    evaluate strict (.flatten :: rest) current = absent strict .pathNotArrayAccessible :=
  evaluate_of_absent (by rw [Step.evaluate, missing])

theorem evaluate_group {body : List Step} {members : List Value}
    (found : current.members? = some members) :
    evaluate strict (.group body :: rest) current =
      ((members.mapM (evaluate strict body)).map (·.filterMap id) >>= fun collected =>
        evaluate strict rest (.list collected)) := by
  rw [evaluate, Step.evaluate, found]
  dsimp only
  cases members.mapM (evaluate strict body) <;> rfl

theorem evaluate_group_absent {body : List Step} (missing : current.members? = none) :
    evaluate strict (.group body :: rest) current = absent strict .pathNotArrayAccessible :=
  evaluate_of_absent (by rw [Step.evaluate, missing])

end Reshape.Path
