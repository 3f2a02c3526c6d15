import Reshape.Calendar.Scan
import Reshape.Filter.Basic

namespace Reshape.Filter

open Calendar

/-- A text in a format is a moment, or else a date, which is taken at midnight. -/
def momentInFormat (text format : String) : Except FilterFault Moment :=
  match Moment.scan format text with
  | .ok moment => .ok moment
  | .error _ =>
      match Date.scan format text with
      | .ok date => .ok (Moment.midnight date)
      | .error reason => .error (.dateMismatch text format reason.message)

def standardMoment (text : String) : Except FilterFault Moment :=
  match Moment.ofStandard? text with
  | some moment => .ok moment
  | none =>
      match Date.scan "%Y-%m-%d" text with
      | .ok date => .ok (Moment.midnight date)
      | .error reason => .error (.notStandardDate text reason.message)

def momentOfNumber (number : Number) : Except FilterFault Moment :=
  match number.toSignedWord? with
  | none => .error (.timestampNotInteger number)
  | some seconds =>
      match Moment.ofTimestamp? seconds with
      | some moment => .ok moment
      | none => .error (.timestampOutOfRange seconds)

def momentOf (value : Value) (format : Option String) : Except FilterFault Moment :=
  match value, format with
  | .string text, some format => momentInFormat text format
  | .string text, none => standardMoment text
  | .number number, _ => momentOfNumber number
  | other, _ => .error (.expectedDate other.typeName)

def inputFormat? (arguments : List Value) : Except FilterFault (Option String) :=
  match (arguments[1]? : Option Value) with
  | none | some .null => .ok none
  | some _ => (stringArgument arguments 1 "").map some

def date : Filter := ofPure fun context arguments =>
  if context.source.isNull then .ok .null
  else do
    let output ← stringArgument arguments 0 "%Y-%m-%d"
    let moment ← momentOf context.source (← inputFormat? arguments)
    match moment.format? output with
    | some text => .ok (.string text)
    | none => .error (.formatInvalid output)

end Reshape.Filter
