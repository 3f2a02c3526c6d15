import Reshape.Proofs.Access.RecordFree
import Reshape.Proofs.Convert.Observation

namespace Reshape

/-- Lookups find no record where the source and the key hold none. -/
def Lookup.KeepsRecordFree (lookup : Lookup) : Prop :=
  ∀ source key strict result, source.RecordFree → key.RecordFree →
    lookup source key strict = pure result → result.RecordFree

theorem Value.observation_recordFree [Record.Accessors] :
    Observation fun left right => left.RecordFree ∧ left = right := by
  apply Observation.of_kept
  case child => exact fun free found => free.get? found
  case members => exact fun free found => itemsRecordFree_iff.mp (free.members? found)
  case list => exact recordFree_list_iff.mpr
  case leaf =>
    intro value scalar
    cases value with
    | null | bool | number | string => trivial
    | list | map | record => contradiction

theorem Converter.lookupWithin_keepsRecordFree [Record.Accessors] {converter : Converter}
    (builtIn : converter.filters.BuiltIn) (depth : Nat) :
    Lookup.KeepsRecordFree (converter.lookupWithin depth) :=
  fun _ _ _ _ sourceFree keyFree ended =>
    holds_of_lookupWithin Value.observation_recordFree builtIn sourceFree keyFree ended

end Reshape
