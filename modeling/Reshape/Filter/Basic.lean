import Reshape.Error
/-!
Filters. A filter turns the running value of a pipeline and its own arguments into a new
running value. It may look up further values through its context; such lookups can nest
without end, so a filter may also give no answer at all.
-/

namespace Reshape

/-- A result, an error, or no answer within the nesting that is allowed. -/
abbrev Attempt (ε α : Type) := ExceptT ε Option α

abbrev Lookup := (source key : Value) → (strict : Bool) → Attempt Error Value

inductive FilterFault where
  | argumentNotString (position : Nat) (found : String)
  | expectedList (found : String)
  | expectedPath (found : String)
  | expectedString (found : String)
  | elementNotNumber (position : Nat) (found : String)
  | mixedElements (position : Nat) (found : String)
  | nestedElement (found : String)
  | uncountable (found : String)
  | unknownOrder (order : String)
  | patternMissing
  | patternInvalid (pattern : String)
  | dateMismatch (text format reason : String)
  | notStandardDate (text reason : String)
  | timestampNotInteger (timestamp : Number)
  | timestampOutOfRange (seconds : Int)
  | expectedDate (found : String)
  | formatInvalid (format : String)
  | custom (messages : List String)
deriving DecidableEq

/-- The messages of a fault, outermost first. What is wrong with a pattern is not told. -/
def FilterFault.messages : FilterFault → List String
  | .argumentNotString position found =>
      ["argument " ++ toString position ++ " must be a string, found " ++ found]
  | .expectedList found => ["expected a list, found " ++ found]
  | .expectedPath found => ["expected a path, found " ++ found]
  | .expectedString found => ["expected a string, found " ++ found]
  | .elementNotNumber position found =>
      ["element " ++ toString position ++ " is " ++ found ++ ", not a number"]
  | .mixedElements position found =>
      ["sort needs all numbers or all strings",
        "element " ++ toString position ++ " is " ++ found ++ ", not a number"]
  | .nestedElement found => ["cannot join a nested " ++ found]
  | .uncountable found => ["cannot count a " ++ found]
  | .unknownOrder order => ["unknown sort order '" ++ order ++ "', expected 'asc' or 'desc'"]
  | .patternMissing => ["replace needs a pattern string as its first argument"]
  | .patternInvalid pattern => ["invalid pattern '" ++ pattern ++ "'", "<regex>"]
  | .dateMismatch text format reason =>
      ["'" ++ text ++ "' does not match '" ++ format ++ "'", reason]
  | .notStandardDate text reason => ["'" ++ text ++ "' is not an RFC 3339 date", reason]
  | .timestampNotInteger timestamp => ["timestamp " ++ timestamp.text ++ " is not an integer"]
  | .timestampOutOfRange seconds => ["timestamp " ++ toString seconds ++ " is out of range"]
  | .expectedDate found => ["expected a date string or timestamp, found " ++ found]
  | .formatInvalid format => ["invalid date format '" ++ format ++ "'"]
  | .custom messages => messages

/-- A filter fails by itself or passes on the error of a lookup. -/
inductive FilterFailure where
  | fault (fault : FilterFault)
  | lookup (error : Error)

def FilterFailure.messages [Record.Display] : FilterFailure → List String
  | .fault cause => cause.messages
  | .lookup cause => cause.messages

structure FilterContext where
  /-- The running value. -/
  source : Value
  /-- The value that the pipeline started from. -/
  root : Value
  strict : Bool
  lookup : Lookup

abbrev Filter := FilterContext → List Value → Attempt FilterFailure Value

namespace Filter

def ofPure (body : FilterContext → List Value → Except FilterFault Value) : Filter :=
  fun context arguments => ExceptT.mk (some ((body context arguments).mapError .fault))

def ofLookup (attempt : Attempt Error Value) : Attempt FilterFailure Value :=
  ExceptT.mk (attempt.run.map (·.mapError .lookup))

/-- A string argument; a missing or null one is the default. -/
def stringArgument (arguments : List Value) (position : Nat) (default : String) :
    Except FilterFault String :=
  match arguments[position]? with
  | none | some .null => .ok default
  | some (.string text) => .ok text
  | some other => .error (.argumentNotString position other.typeName)

def onList (source : Value) (body : List Value → Except FilterFault Value) :
    Except FilterFault Value :=
  match source with
  | .null => .ok .null
  | .list items => body items
  | other => .error (.expectedList other.typeName)

end Filter

end Reshape
