import Reshape.Access.Container
import Reshape.Path.Syntax
/-!
Reading by path. A window of the token list is resolved against a value: a key descends,
`*` resolves the tokens up to its closing `|` against every member and collects what is
found, `>` merges the members' members, and a `|` that closes nothing is skipped. What is
not found is left out in lenient mode and is an error in strict mode.
-/

namespace Reshape

structure Resolver where
  tokens : Array Token
  delimiter : Delimiter
  strict : Bool

namespace Resolver

def travelled (resolver : Resolver) (position : Nat) : String :=
  resolver.delimiter.join (resolver.tokens.toList.take position)

/-- The position of the cancel that closes a group, searched from `start` on; `depth`
counts the groups that were opened meanwhile. -/
def closing? (tokens : Array Token) (start stop depth : Nat) : Option Nat :=
  if start < stop then
    match tokens[start]? with
    | some .wildcard => closing? tokens (start + 1) stop (depth + 1)
    | some .cancel => if depth = 0 then some start else closing? tokens (start + 1) stop (depth - 1)
    | _ => closing? tokens (start + 1) stop depth
  else none
termination_by stop - start

theorem closing?_bounds {tokens : Array Token} {start stop depth position : Nat}
    (found : closing? tokens start stop depth = some position) :
    start ≤ position ∧ position < stop := by
  fun_induction closing? tokens start stop depth with
  | case1 start depth below _ ih =>
      have bounds := ih found
      omega
  | case2 start below _ =>
      cases found
      omega
  | case3 start depth below _ _ ih =>
      have bounds := ih found
      omega
  | case4 start depth below _ _ ih =>
      have bounds := ih found
      omega
  | case5 => contradiction

def collect (members : List Value) (resolve : Value → Except PathError (Option Value)) :
    Except PathError (List Value) :=
  match members with
  | [] => .ok []
  | member :: rest => do
      let found ← resolve member
      let others ← collect rest resolve
      return found.toList ++ others

variable [Record.Accessors]

/-- The members of the members. A member that has none is left out in lenient mode. -/
def merge (resolver : Resolver) (position : Nat) : List Value → Except PathError (List Value)
  | [] => .ok []
  | member :: rest =>
      match member.members? with
      | some inner => (merge resolver position rest).map (inner ++ ·)
      | none =>
          if resolver.strict then
            .error (.notArrayAccessible (resolver.travelled position) member.typeName)
          else merge resolver position rest

def absent (resolver : Resolver) (failure : PathError) : Except PathError (Option Value) :=
  if resolver.strict then .error failure else .ok none

def resolve (resolver : Resolver) (start stop : Nat)
    (bounds : start ≤ stop ∧ stop ≤ resolver.tokens.size)
    (current : Value) : Except PathError (Option Value) :=
  if within : start < stop then
    match resolver.tokens[start] with
    | .key name =>
        match current.get? name with
        | some child => resolve resolver (start + 1) stop (by omega) child
        | none => resolver.absent (.notExist name (resolver.travelled start))
    | .cancel => resolve resolver (start + 1) stop (by omega) current
    | .flatten =>
        match current.members? with
        | none => resolver.absent (.notArrayAccessible (resolver.travelled start) current.typeName)
        | some members => do
            let merged ← resolver.merge (start + 1) members
            resolve resolver (start + 1) stop (by omega) (.list merged)
    | .wildcard =>
        match current.members? with
        | none => resolver.absent (.notArrayAccessible (resolver.travelled start) current.typeName)
        | some members =>
            match closed : closing? resolver.tokens (start + 1) stop 0 with
            | some cancel => do
                have position := closing?_bounds closed
                let found ← collect members (resolve resolver (start + 1) cancel (by omega))
                resolve resolver (cancel + 1) stop (by omega) (.list found)
            | none => do
                let found ← collect members (resolve resolver (start + 1) stop (by omega))
                return some (.list found)
  else .ok (some current)
termination_by stop - start

end Resolver

variable [Record.Accessors]

/-- The value at a list of tokens, or nothing; never nothing in strict mode. -/
def Value.resolve (delimiter : Delimiter) (strict : Bool) (tokens : List Token) (root : Value) :
    Except PathError (Option Value) :=
  Resolver.resolve { tokens := tokens.toArray, delimiter, strict } 0 tokens.length (by simp) root

/-- A root to read from or write to: null or a container. -/
def Value.checkRoot (root : Value) : Except PathError Unit :=
  if root.isScalar then .error (.sourceIsScalar root.typeName) else .ok ()

namespace Value

variable (delimiter : Delimiter) (root : Value)

/-- The value at a path; null when nothing is found in lenient mode. -/
def read (strict : Bool) (path : PathForm) : Except PathError Value := do
  let tokens ← path.parse delimiter
  return (← root.resolve delimiter strict tokens).getD .null

/-- The value at a path, or a default when it is missing or null. -/
def readOr (default : Value) (path : PathForm) : Except PathError Value := do
  let found ← root.read delimiter false path
  return if found.isNull then default else found

/-- The value at a path, or nothing for whatever reason. -/
def lookup? (path : PathForm) : Option Value :=
  match path.parse delimiter with
  | .ok tokens =>
      match root.resolve delimiter false tokens with
      | .ok found => found
      | .error _ => none
  | .error _ => none

/-- Whether a path leads to a value, null included. -/
def pathExists (path : PathForm) : Bool := (root.lookup? delimiter path).isSome

def pathIsSet (path : PathForm) : Bool := (root.lookup? delimiter path).any (!·.isNull)

end Value

end Reshape
