import Reshape.Proofs.Access.Discreet
import Reshape.Proofs.Convert.Observation
import Reshape.Proofs.Value.Equality
/-!
Nothing hidden comes to light where accessors are discreet. Values that are alike but for what
their records hide equal each other, have one text, lead by every path to values that are alike
again, and are converted alike by every schema, also where an entry writes to a property of a
record that an earlier entry has put out.
-/

namespace Reshape.Value

open Converter

section

variable [Record.Accessors] [Record.Lawful] {left right : Value}

theorem alike_readOr (discreet : Record.Discreet) (same : left.Indistinguishable right)
    (delimiter : Delimiter) (default : Value) (path : PathForm) :
    Alike Indistinguishable (left.readOr delimiter default path)
      (right.readOr delimiter default path) := by
  have observation := observation_indistinguishable discreet
  have found : Alike Indistinguishable (left.read delimiter false path)
      (right.read delimiter false path) := observation.read rfl same false path
  refine found.bind fun value other held => ?_
  rw [observation.isNull_eq held]
  split
  · exact Eq.refl default.exposed
  · exact held

end

/-- A setter may keep to its own field and still give away what another one hides: here it
stores a copy of it. -/
theorem hidden_data_seen_copied :
    let account : Shape :=
      { name := "Account"
        fields := [("name", { visibility := .shown, setter := some ⟨"name", .custom "copy"⟩ }),
          ("secret", { visibility := .hidden })] }
    let copying : Record.Accessors :=
      { Record.Accessors.standard with
        write := fun setter record _ =>
          record.store setter.field ((record.stored? "secret").getD .null) }
    let user (secret : String) : Value :=
      .map [("user", .record (some account) [("secret", .string secret)])]
    let copied (secret : String) : Value :=
      .record (some account) [("secret", .string secret), ("name", .string secret)]
    let schema : Schema :=
      { entries := [("out", .null), ("out.user.name", constant (.bool true))] }
    let converter : Converter := { filters := .standard }
    Record.Lawful ∧
      (∀ setter record value,
        Record.Within setter.field record (copying.write setter record value)) ∧
      (user "a").Indistinguishable (user "b") ∧
      (∀ secret, @convertWithin copying converter 1 (user secret) schema true =
        pure (.map [("out", .map [("user", copied secret)])])) ∧
      ¬ (copied "a").Indistinguishable (copied "b") := by
  intro account copying user copied schema converter
  refine ⟨⟨Record.Lawful.standard.view_answer, Record.Lawful.standard.wellFormed_answer⟩,
    fun setter record _ => Record.within_store record setter.field _, rfl, ?_, ?_⟩
  · intro secret
    have first : @writeSet copying .dot (map []) (.text "out") (user secret) =
        { root := map [("out", user secret)] } := rfl
    have second : @writeSet copying .dot (map [("out", user secret)]) (.text "out.user.name")
        (.bool true) = { root := map [("out", map [("user", copied secret)])] } := rfl
    have given : @lookupWithin copying converter 1 (user secret) (constant (.bool true)) true =
        pure (.bool true) :=
      lookupWithin_constant Registry.find?_standard_const 0 rfl _ true
    simp only [convertWithin, schema]
    rw [convertEntries_cons_of_written (lookupWithin_null 0 _ true) (by decide) first rfl,
      convertEntries_cons_of_written given (by decide) second rfl]
    rfl
  · intro same
    have shown := (indistinguishable_typed_iff.mp same) "name" (by decide)
    have names : (string "a").Indistinguishable (.string "b") := Option.rel_some_some.mp shown
    exact absurd (string.inj names) (by decide)

end Reshape.Value
