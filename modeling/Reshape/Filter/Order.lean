import Reshape.Filter.Aggregate
/-!
Sorting and removing repetitions. Strings are sorted by code points; numbers by their
nearest binary64, so integers that round alike keep their order. Descending order is
ascending order reversed.
-/

namespace Reshape.Filter

def string? : Value → Option String
  | .string text => some text
  | _ => none

def numericPosition (value : Value) : Int :=
  match number? value with
  | some number => number.toBinary64.position
  | none => 0

def sortStrings (items : List Value) : List Value :=
  items.mergeSort fun left right => !((string? right).getD "" < (string? left).getD "")

def sortNumbers (items : List Value) : List Value :=
  ((items.map fun item => (numericPosition item, item)).mergeSort fun left right =>
    left.1 ≤ right.1).map (·.2)

def isDescending (order : String) : Except FilterFault Bool :=
  if order == "asc" then .ok false
  else if order == "desc" then .ok true
  else .error (.unknownOrder order)

def sorted (items : List Value) : Except FilterFault (List Value) :=
  if items.all fun item => (string? item).isSome then .ok (sortStrings items)
  else
    match floats items 0 with
    | .ok _ => .ok (sortNumbers items)
    | .error (position, found) => .error (.mixedElements position found)

def sort : Filter := ofPure fun context arguments => onList context.source fun items => do
  let descending ← isDescending (← stringArgument arguments 0 "asc")
  let ascending ← sorted items
  return .list (if descending then ascending.reverse else ascending)

/-- The elements that equal none kept before them. -/
def firsts [Record.Display] (kept : List Value) : List Value → List Value
  | [] => kept.reverse
  | item :: rest => firsts (if kept.any fun seen => seen.same item then kept else item :: kept) rest

def unique [Record.Display] : Filter := ofPure fun context _ => onList context.source fun items =>
  .ok (.list (firsts [] items))

end Reshape.Filter
