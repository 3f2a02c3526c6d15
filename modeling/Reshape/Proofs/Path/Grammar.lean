import Reshape.Path.Token
/-!
The grammar of read paths. The tokens of a path are read against a stack of open groups:
`*` opens a group, `|` closes the innermost one and is skipped where none is open, and a
group that is never closed extends to the end. The main statements say how the first
token of a path decides what the steps of the whole path are.
-/

namespace Reshape.Path

/-- A step of a path. The steps of a group's body are taken in every member. -/
inductive Step where
  | key (name : String)
  | flatten
  | group (body : List Step)

/-- Induction over the steps of a path, with a hypothesis for the body of a group too. -/
theorem steps_induction {motive : List Step → Prop} (nil : motive [])
    (key : ∀ name rest, motive rest → motive (.key name :: rest))
    (flatten : ∀ rest, motive rest → motive (.flatten :: rest))
    (group : ∀ body rest, motive body → motive rest → motive (.group body :: rest)) :
    ∀ steps, motive steps
  | [] => nil
  | .key name :: rest => key name rest (steps_induction nil key flatten group rest)
  | .flatten :: rest => flatten rest (steps_induction nil key flatten group rest)
  | .group body :: rest =>
      group body rest (steps_induction nil key flatten group body)
        (steps_induction nil key flatten group rest)

/-- A path read halfway: the steps outside every open group, and the bodies of the open
groups, innermost first. -/
structure Nesting where
  steps : List Step := []
  groups : List (List Step) := []

namespace Nesting

def emit (nesting : Nesting) (step : Step) : Nesting :=
  match nesting.groups with
  | [] => { nesting with steps := nesting.steps ++ [step] }
  | body :: outer => { nesting with groups := (body ++ [step]) :: outer }

def read (nesting : Nesting) : Token → Nesting
  | .key name => nesting.emit (.key name)
  | .flatten => nesting.emit .flatten
  | .wildcard => { nesting with groups := [] :: nesting.groups }
  | .cancel =>
      match nesting.groups with
      | [] => nesting
      | body :: outer => { nesting with groups := outer }.emit (.group body)

def readAll (nesting : Nesting) (tokens : List Token) : Nesting := tokens.foldl read nesting

/-- Groups that are still open end here, the innermost first. -/
def finish (nesting : Nesting) : List Step :=
  nesting.steps ++ nesting.groups.foldl (fun inner body => [.group (body ++ inner)]) []

end Nesting

def parse (tokens : List Token) : List Step := (Nesting.readAll {} tokens).finish

namespace Nesting

variable {nesting : Nesting} {tokens : List Token}

@[simp] theorem readAll_nil : nesting.readAll [] = nesting := rfl

@[simp] theorem readAll_cons (token : Token) :
    nesting.readAll (token :: tokens) = (nesting.read token).readAll tokens := rfl

theorem readAll_append (first second : List Token) :
    nesting.readAll (first ++ second) = (nesting.readAll first).readAll second :=
  List.foldl_append

/-- Steps that were taken before the ones read so far. -/
def after (before : List Step) (nesting : Nesting) : Nesting :=
  { nesting with steps := before ++ nesting.steps }

theorem read_after (before : List Step) (token : Token) :
    (nesting.after before).read token = (nesting.read token).after before := by
  obtain ⟨steps, groups⟩ := nesting
  cases token with
  | key name => cases groups <;> simp [read, emit, after]
  | flatten => cases groups <;> simp [read, emit, after]
  | wildcard => rfl
  | cancel =>
      cases groups with
      | nil => rfl
      | cons body outer => cases outer <;> simp [read, emit, after]

theorem readAll_after (before : List Step) :
    (nesting.after before).readAll tokens = (nesting.readAll tokens).after before := by
  induction tokens generalizing nesting with
  | nil => rfl
  | cons token rest ih => rw [readAll_cons, readAll_cons, read_after, ih]

theorem finish_after (before : List Step) :
    (nesting.after before).finish = before ++ nesting.finish := by
  simp [after, finish]

/-- What was read so far becomes the body of the outermost group, with the given steps
before it. -/
def sunk (before : List Step) (nesting : Nesting) : Nesting :=
  { steps := before, groups := nesting.groups ++ [nesting.steps] }

theorem finish_sunk (before : List Step) :
    (nesting.sunk before).finish = before ++ [.group nesting.finish] := by
  simp [sunk, finish]

theorem emit_sunk (nesting : Nesting) (before : List Step) (step : Step) :
    (nesting.sunk before).emit step = (nesting.emit step).sunk before := by
  obtain ⟨steps, groups⟩ := nesting
  cases groups <;> rfl

theorem emit_groups_length (nesting : Nesting) (step : Step) :
    (nesting.emit step).groups.length = nesting.groups.length := by
  obtain ⟨steps, groups⟩ := nesting
  cases groups <;> rfl

theorem read_groups_length (token : Token) :
    (nesting.read token).groups.length =
      match token with
      | .wildcard => nesting.groups.length + 1
      | .cancel => nesting.groups.length - 1
      | _ => nesting.groups.length := by
  cases token with
  | key name => exact emit_groups_length nesting (.key name)
  | flatten => exact emit_groups_length nesting .flatten
  | wildcard => rfl
  | cancel =>
      obtain ⟨steps, groups⟩ := nesting
      cases groups with
      | nil => rfl
      | cons body outer =>
          exact emit_groups_length { steps, groups := outer } (.group body)

/-- A cancel is the one token that can reach the group which all else lies in. -/
theorem read_sunk (before : List Step) (token : Token)
    (within : token = .cancel → nesting.groups ≠ []) :
    (nesting.sunk before).read token = (nesting.read token).sunk before := by
  cases token with
  | key name => exact emit_sunk nesting before (.key name)
  | flatten => exact emit_sunk nesting before .flatten
  | wildcard => rfl
  | cancel =>
      obtain ⟨steps, groups⟩ := nesting
      cases groups with
      | nil => exact absurd rfl (within rfl)
      | cons body outer => exact emit_sunk { steps, groups := outer } before (.group body)

/-- The tokens can be read inside of a group: none of them closes it. -/
def Inside (nesting : Nesting) (tokens : List Token) : Prop :=
  ∀ before, (nesting.sunk before).readAll tokens = (nesting.readAll tokens).sunk before

theorem Inside.cons {token : Token} (within : token = .cancel → nesting.groups ≠ [])
    (rest : (nesting.read token).Inside tokens) : nesting.Inside (token :: tokens) := by
  intro before
  rw [readAll_cons, readAll_cons, read_sunk before token within, rest before]

end Nesting

variable (tokens : List Token)

theorem parse_cancel : parse (.cancel :: tokens) = parse tokens := rfl

theorem parse_key (name : String) : parse (.key name :: tokens) = .key name :: parse tokens := by
  change ((Nesting.after [.key name] {}).readAll tokens).finish = _
  rw [Nesting.readAll_after, Nesting.finish_after]
  rfl

theorem parse_flatten : parse (.flatten :: tokens) = .flatten :: parse tokens := by
  change ((Nesting.after [.flatten] {}).readAll tokens).finish = _
  rw [Nesting.readAll_after, Nesting.finish_after]
  rfl

theorem parse_plain {tokens : List Token}
    (plain : ∀ token ∈ tokens, token ≠ .wildcard ∧ token ≠ .flatten) :
    parse tokens = (tokens.filterMap Token.key?).map .key := by
  induction tokens with
  | nil => rfl
  | cons token rest ih =>
      have tail := ih (fun other member => plain other (List.mem_cons_of_mem token member))
      cases token with
      | key name => simp [parse_key, tail, Token.key?]
      | cancel => exact tail
      | wildcard => exact absurd rfl (plain .wildcard (by simp)).1
      | flatten => exact absurd rfl (plain .flatten (by simp)).2

theorem parse_keys (keys : List String) : parse (keys.map .key) = keys.map .key := by
  have plain : ∀ token ∈ keys.map Token.key, token ≠ .wildcard ∧ token ≠ .flatten := by
    intro token member
    obtain ⟨key, _, rfl⟩ := List.mem_map.mp member
    simp
  have names : (keys.map Token.key).filterMap Token.key? = keys := by
    simp [List.filterMap_map, Function.comp_def, Token.key?]
  rw [parse_plain plain, names]

theorem parse_wildcard_open
    (unclosed : Nesting.Inside {} tokens) :
    parse (.wildcard :: tokens) = [.group (parse tokens)] := by
  change ((Nesting.sunk [] {}).readAll tokens).finish = _
  rw [unclosed [], Nesting.finish_sunk]
  rfl

theorem readAll_group {body : List Token} (inside : Nesting.Inside {} body)
    (balanced : (Nesting.readAll {} body).groups = []) :
    Nesting.readAll {} (.wildcard :: body ++ .cancel :: tokens) =
      (Nesting.readAll {} tokens).after [.group (parse body)] := by
  have finished : (Nesting.readAll {} body).steps = parse body := by
    simp [parse, Nesting.finish, balanced]
  have closed : ((Nesting.readAll {} body).sunk []).read .cancel =
      Nesting.after [.group (parse body)] {} := by
    simp [Nesting.sunk, Nesting.read, Nesting.emit, Nesting.after, balanced, finished]
  change (Nesting.sunk [] {}).readAll (body ++ .cancel :: tokens) = _
  rw [Nesting.readAll_append, inside [], Nesting.readAll_cons, closed, Nesting.readAll_after]

theorem parse_wildcard_closed {body : List Token}
    (inside : Nesting.Inside {} body)
    (balanced : (Nesting.readAll {} body).groups = []) :
    parse (.wildcard :: body ++ .cancel :: tokens) = .group (parse body) :: parse tokens := by
  rw [parse, readAll_group tokens inside balanced, Nesting.finish_after]
  rfl

example : parse [.cancel, .wildcard, .key "a", .wildcard, .cancel, .key "b"] =
    [.group [.key "a", .group [], .key "b"]] := rfl

end Reshape.Path
