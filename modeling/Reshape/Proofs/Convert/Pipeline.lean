import Reshape.Proofs.Convert.Steps
import Reshape.Proofs.Path.Text
import Reshape.Proofs.Read.Sequence
import Reshape.Proofs.Read.Strictness

namespace Reshape.Converter

open Value

section

variable {converter : Converter} {source : Value} {strict : Bool}

/-- An attempt that tells how a reading went: it fails where the reading did, and otherwise
ends in the value found, or in null for nothing. -/
inductive Tells : Except ErrorKind (Option Value) → Attempt Error Value → Prop where
  | failed (kind : ErrorKind) (failure : Error) : Tells (.error kind) (throw failure)
  | ended (found : Option Value) : Tells (.ok found) (pure (found.getD .null))

section Telling

variable {outcome : Except ErrorKind (Option Value)} {attempt other : Attempt Error Value}

theorem Tells.same (told : Tells outcome attempt) (again : Tells outcome other) :
    ((∃ failure, attempt = throw failure) ∧ ∃ failure, other = throw failure) ∨
      ∃ value, attempt = pure value ∧ other = pure value := by
  cases told with
  | failed kind failure =>
      cases again with
      | failed _ another => exact .inl ⟨⟨failure, rfl⟩, another, rfl⟩
  | ended found =>
      cases again
      exact .inr ⟨_, rfl, rfl⟩

theorem Tells.bind {next : Value → Except ErrorKind (Option Value)}
    {onward : Value → Attempt Error Value} (told : Tells outcome attempt)
    (tells : ∀ value, Tells (next value) (onward value))
    (stops : outcome = .ok none → onward .null = pure .null) :
    Tells (do match ← outcome with
      | some value => next value
      | none => return none) (attempt >>= onward) := by
  cases told with
  | failed kind failure => exact .failed kind failure
  | ended found =>
      cases found with
      | some value => exact tells value
      | none =>
          rw [pure_bind, Option.getD_none, stops rfl]
          exact .ended none

end Telling

variable [Record.Accessors]

section Selection

variable {path : String}

theorem read_text (delimiter : Delimiter) (source : Value) (strict : Bool) (path : String) :
    source.read delimiter strict (.text path) =
      (source.resolve delimiter strict (delimiter.split path)).map (·.getD .null) := by
  rw [Value.read]
  dsimp only [PathForm.parse, bind, Except.bind]
  cases source.resolve delimiter strict (delimiter.split path) <;> rfl

theorem select_uncontained (nonempty : path ≠ "") (scalar : source.isContainer = false) :
    converter.select source path strict = rejectSource source strict := by
  have named : ¬ path.isEmpty := fun empty => nonempty (String.isEmpty_iff.mp empty)
  rw [select, if_neg named, if_pos (by simp [scalar])]

theorem select_tells_contained (nonempty : path ≠ "") (container : source.isContainer) :
    Tells ((source.resolve converter.delimiter strict
        (converter.delimiter.split path)).mapError PathError.kind)
      (converter.select source path strict) := by
  have read := read_text converter.delimiter source strict path
  cases found : source.resolve converter.delimiter strict (converter.delimiter.split path) with
  | error cause =>
      rw [found] at read
      rw [select_of_unread nonempty container read]
      exact .failed cause.kind _
  | ok value =>
      rw [found] at read
      rw [select_of_read nonempty container read]
      exact .ended value

theorem select_tells (reaching : ∃ token ∈ converter.delimiter.split path, token ≠ .cancel)
    (source : Value) (strict : Bool) :
    Tells ((source.resolve converter.delimiter strict
        (converter.delimiter.split path)).mapError PathError.kind)
      (converter.select source path strict) := by
  have nonempty : path ≠ "" := by
    rintro rfl
    simp [Delimiter.split] at reaching
  cases container : source.isContainer with
  | true => exact select_tells_contained nonempty container
  | false =>
      obtain ⟨failure, ended⟩ : ∃ failure, source.resolve converter.delimiter strict
          (converter.delimiter.split path) = if strict then .error failure else .ok none :=
        resolve_uncontained container reaching
      rw [ended, select_uncontained nonempty container, rejectSource]
      cases strict with
      | true => exact .failed failure.kind _
      | false => exact .ended none

end Selection

theorem getValue_path (source : Value) (path : String) (strict : Bool) :
    converter.getValue source (.string path) strict = converter.select source path strict :=
  lookupWithin_path 4095 source path strict

theorem getValue_paths (container : source.isContainer) (first second : String) (strict : Bool) :
    converter.getValue source (.list [.string first, .string second]) strict =
      (converter.select source first strict >>= fun reached =>
        converter.select reached second strict) := by
  rw [getValue, lookupDepth, lookupWithin, evaluate_steps container, List.foldlM_cons]
  simp only [List.foldlM_cons, List.foldlM_nil, bind_pure]
  rfl

theorem getValue_uncontained (scalar : source.isContainer = false) (steps : List Value)
    (strict : Bool) : converter.getValue source (.list steps) strict = rejectSource source strict :=
  evaluate_uncontained (by simp [scalar]) steps

/-- Following two paths one after the other comes to following the joined path, if the first
closes its groups and the second takes a step: both fail, or both give the same value. -/
theorem getValue_joined_paths {character : Char}
    (single : converter.delimiter.text.toList = [character]) {first second : String}
    (nonempty : first ≠ "") (closed : Path.Closed (converter.delimiter.split first))
    (reaching : ∃ token ∈ converter.delimiter.split second, token ≠ .cancel) (source : Value)
    (strict : Bool) :
    ((∃ failure, converter.getValue source (.list [.string first, .string second]) strict =
        throw failure) ∧
      ∃ failure, converter.getValue source
        (.string (first ++ converter.delimiter.text ++ second)) strict = throw failure) ∨
    ∃ value,
      converter.getValue source (.list [.string first, .string second]) strict = pure value ∧
      converter.getValue source (.string (first ++ converter.delimiter.text ++ second)) strict =
        pure value := by
  have further : second ≠ "" := by
    rintro rfl
    simp [Delimiter.split] at reaching
  have visible : first ++ converter.delimiter.text ++ second ≠ "" := by simp [nonempty]
  rw [getValue_path]
  cases container : source.isContainer with
  | false =>
      rw [getValue_uncontained container, select_uncontained visible container, rejectSource]
      cases strict with
      | true => exact .inl ⟨⟨_, rfl⟩, _, rfl⟩
      | false => exact .inr ⟨_, rfl, rfl⟩
  | true =>
      have whole : Tells _ (converter.select source _ strict) :=
        select_tells_contained visible container
      rw [Delimiter.split_append single nonempty further, resolve_append closed] at whole
      rw [getValue_paths container]
      refine Tells.same ?_ whole
      refine (select_tells_contained nonempty container).bind
        (fun value => select_tells reaching value strict) fun absent => ?_
      cases strict with
      | false => exact select_uncontained further rfl
      | true =>
          cases found : source.resolve converter.delimiter true
              (converter.delimiter.split first) with
          | error cause => simp [found] at absent
          | ok value =>
              cases value with
              | none => exact absurd found resolve_strict_ne_none
              | some reached => simp [found] at absent

end

/-- The list that the closed group collects is where the second path goes on. -/
theorem getValue_joined_paths_collected :
    let converter : Converter := { filters := {} }
    let member (held : Value) : Value := .map [("b", held)]
    let source : Value := .map [("a", .list [member .null, .null, member (.bool true)])]
    converter.delimiter.text.toList = ['.'] ∧ Path.Closed (converter.delimiter.split "a.*.b.|") ∧
      (∃ token ∈ converter.delimiter.split "1", token ≠ .cancel) ∧
      converter.getValue source (.string "a.*.b.|.1") false = pure (.bool true) ∧
      converter.getValue source (.list [.string "a.*.b.|", .string "1"]) false =
        pure (.bool true) := by
  intro converter member source
  have single : converter.delimiter.text.toList = ['.'] := by decide
  have closed : Path.Closed (converter.delimiter.split "a.*.b.|") := by
    have tokens : converter.delimiter.split "a.*.b.|" =
        [.key "a", .wildcard, .key "b", .cancel] := by decide
    rw [tokens]
    intro position head
    match position with
    | 1 => simp [Resolver.closing?]
    | 0 | 2 | 3 | position + 4 => simp at head
  have reaching : ∃ token ∈ converter.delimiter.split "1", token ≠ .cancel := by decide
  have joined : converter.getValue source (.string "a.*.b.|.1") false = pure (.bool true) := by
    have tokens : Delimiter.dot.split "a.*.b.|.1" =
        [.key "a", .wildcard, .key "b", .cancel, .key "1"] := by decide
    have found : source.resolve .dot false (Delimiter.dot.split "a.*.b.|.1") =
        .ok (some (.bool true)) := by
      rw [tokens]
      exact (resolve_eq_ok_iff ..).mpr rfl
    have read : source.read converter.delimiter false (.text "a.*.b.|.1") = .ok (.bool true) := by
      rw [read_text]
      exact congrArg (Except.map (·.getD .null)) found
    rw [getValue_path]
    exact select_of_read (by decide) rfl read
  refine ⟨single, closed, reaching, joined, ?_⟩
  have spelled : "a.*.b.|" ++ converter.delimiter.text ++ "1" = "a.*.b.|.1" := by decide
  have same := getValue_joined_paths single (by decide) closed reaching source false
  rw [spelled, joined] at same
  rcases same with ⟨_, failure, failed⟩ | ⟨value, followed, ended⟩
  · exact absurd failed.symm Attempt.throw_ne_pure
  · rw [followed, ended]

end Reshape.Converter
