import Reshape.Value.Basic

namespace Reshape

inductive Setting where
  | scalar (value : Value) (text : Option String)
  | list (items : List Setting)
  | map (entries : List (String × Setting))

/-- What a format allows in a configuration. -/
structure SettingRules where
  /-- A section as the list of its fields in order. -/
  positional : Bool
  /-- Such a list with items to spare. -/
  surplus : Bool
  /-- Nothing at all where a section belongs. -/
  blank : Bool
  /-- Null where a text may be missing. -/
  nullable : Bool
  /-- What a choice may hold that is given as a map from its name. -/
  holdsChoice : Setting → Bool

namespace Setting

mutual

def ofValue : Value → Setting
  | .string text => .scalar (.string text) (some text)
  | .list items => .list (ofItems items)
  | .map entries => .map (ofEntries entries)
  | .record _ fields => .map (ofEntries fields)
  | other => .scalar other none

def ofItems : List Value → List Setting
  | [] => []
  | item :: rest => ofValue item :: ofItems rest

def ofEntries : List (String × Value) → List (String × Setting)
  | [] => []
  | (name, value) :: rest => (name, ofValue value) :: ofEntries rest

end

def text? : Setting → Option String
  | .scalar _ text => text
  | _ => none

def bool? : Setting → Option Bool
  | .scalar (.bool value) _ => some value
  | _ => none

def optionalText? (rules : SettingRules) : Setting → Option (Option String)
  | .scalar .null text => if rules.nullable then some none else text.map some
  | setting => setting.text?.map some

/-- A choice, given by its name, or as a map from its name to a content that says nothing. -/
def choice? {α : Type} (rules : SettingRules) (ofName? : (name : String) → Option α) :
    Setting → Option α
  | .map [(name, content)] => if rules.holdsChoice content then ofName? name else none
  | setting => setting.text?.bind ofName?

/-- The fields of a section, by name. None of them may be given twice. -/
def fields? (rules : SettingRules) (names : List String) :
    Setting → Option (List (String × Setting))
  | .map entries =>
      let given := entries.map (·.1)
      if names.all fun name => given.count name ≤ 1 then some entries else none
  | .list items =>
      if rules.positional && (rules.surplus || items.length ≤ names.length) then
        some (names.zip items)
      else none
  | .scalar _ text => if rules.blank && text == some "" then some [] else none

end Setting

def fieldOr {α : Type} (fields : List (String × Setting)) (name : String) (default : α)
    (read : Setting → Option α) : Option α :=
  match Entries.get? name fields with
  | some setting => read setting
  | none => some default

end Reshape
