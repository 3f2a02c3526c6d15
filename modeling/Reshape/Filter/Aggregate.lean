import Reshape.Filter.Basic
import Reshape.Record

namespace Reshape.Filter

def number? : Value → Option Number
  | .number number => some number
  | _ => none

def floats (items : List Value) (position : Nat) : Except (Nat × String) (List Float) :=
  match items with
  | [] => .ok []
  | item :: rest =>
      match number? item with
      | some number => (floats rest (position + 1)).map (number.toBinary64.toFloat :: ·)
      | none => .error (position, item.typeName)

/-- Adds up integers from the left, unless an element or a partial sum does not fit. -/
def integerSum? (total : Int) : List Value → Option Int
  | [] => some total
  | item :: rest =>
      match (number? item).bind Number.toSignedWord? with
      | some value =>
          if Number.FitsSigned (total + value) then integerSum? (total + value) rest else none
      | none => none

/-- The sum of floats from the left. It starts at the zero that changes no summand. -/
def floatSum (values : List Float) : Float := values.foldl (· + ·) (-0.0)

def floatsOf (items : List Value) : Except FilterFault (List Float) :=
  (floats items 0).mapError fun (position, found) => .elementNotNumber position found

def sum : Filter := ofPure fun context _ => onList context.source fun items =>
  match integerSum? 0 items with
  | some total => .ok (Value.ofInt total)
  | none => (floatsOf items).map fun values => Value.ofFloat (floatSum values)

def average : Filter := ofPure fun context _ => onList context.source fun items =>
  if items.isEmpty then .ok .null
  else (floatsOf items).map fun values =>
    Value.ofFloat (floatSum values / Float.ofNat values.length)

def count [Record.Accessors] : Filter := ofPure fun context _ =>
  let counted (size : Nat) : Except FilterFault Value := .ok (Value.ofInt size)
  match context.source with
  | .null => counted 0
  | .list items => counted items.length
  | .map entries => counted entries.length
  | .record shape fields => counted (Record.values { shape, fields }).length
  | .string text => counted text.length
  | other => .error (.uncountable other.typeName)

end Reshape.Filter
