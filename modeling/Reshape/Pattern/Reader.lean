import Reshape.Pattern.Bracket
import Reshape.Pattern.Footprint

namespace Reshape.Pattern

structure Part where
  node : Node
  depth : Nat := 0

namespace Part

def sequence (parts : List Part) : Part :=
  { node := .ofParts (parts.map Part.node), depth := depthOfWhole (parts.map Part.depth) }

def choice (alternatives : List Part) : Part :=
  { node := .ofAlternatives (alternatives.map Part.node)
    depth := depthOfWhole (alternatives.map Part.depth) }

def repeated (part : Part) (least : Nat) (most : Option Nat) (eager : Bool) : Part :=
  { node := part.node.repeated least most eager, depth := part.depth + 1 }

def group (number : Option Nat) (part : Part) : Part :=
  { node := match number with
      | some number => .group number part.node
      | none => part.node
    depth := part.depth + 1 }

end Part

/-- The part of a group that has been read. Both lists are in reverse order. -/
structure Branch where
  flags : Flags
  alternatives : List Part := []
  parts : List Part := []
  /-- Whether a repetition may follow. -/
  repeatable : Bool := false

namespace Branch

def add (branch : Branch) (part : Part) : Branch :=
  { branch with parts := part :: branch.parts, repeatable := true }

def beginAlternative (branch : Branch) : Branch :=
  { branch with
    alternatives := Part.sequence branch.parts.reverse :: branch.alternatives
    parts := []
    repeatable := false }

/-- Sets flags. They stand in the sequence, but match nothing. -/
def setFlags (branch : Branch) (flags : Flags) : Branch :=
  { branch with flags, parts := { node := .empty } :: branch.parts, repeatable := false }

def part (branch : Branch) : Part :=
  Part.choice (Part.sequence branch.parts.reverse :: branch.alternatives).reverse

def repeat? (branch : Branch) (least : Nat) (most : Option Nat) (eager : Bool) : Option Branch :=
  match branch.parts with
  | last :: before =>
      if branch.repeatable then
        some { branch with
          parts := last.repeated least most (eager != branch.flags.swapEager) :: before }
      else none
  | [] => none

end Branch

structure OpenGroup where
  number : Option Nat
  around : Branch

structure Reading where
  branch : Branch
  groups : List OpenGroup := []
  names : List (String × Nat) := []
  count : Nat := 0

namespace Reading

def modify (reading : Reading) (change : Branch → Branch) : Reading :=
  { reading with branch := change reading.branch }

def openGroup (reading : Reading) (number : Option Nat) (flags : Flags) : Reading :=
  { reading with
    branch := { flags }
    groups := { number, around := reading.branch } :: reading.groups }

def openNumbered (reading : Reading) : Reading :=
  let number := reading.count + 1
  { reading.openGroup (some number) reading.branch.flags with count := number }

def openNamed? (reading : Reading) (name : String) : Option Reading :=
  if reading.names.any fun entry => entry.1 == name then none
  else some { reading.openNumbered with names := (name, reading.count + 1) :: reading.names }

def closeGroup? (reading : Reading) : Option Reading :=
  match reading.groups with
  | [] => none
  | group :: groups =>
      let part := reading.branch.part.group group.number
      some { reading with branch := group.around.add part, groups }

end Reading

def isNameStart (character : Char) : Bool := character == '_' || Text.isLetter character

def isNamePart (character : Char) : Bool :=
  character == '_' || character == '.' || character == '[' || character == ']' ||
    Text.isLetter character || Text.isNumeral character

def groupName? (text : List Char) : Option (String × List Char) := do
  let (name, rest) ← cutAt? ['>'] text
  match name with
  | first :: more =>
      if isNameStart first && more.all isNamePart then return (String.ofList name, rest) else none
  | [] => none

/-- Flags up to a colon or closing parenthesis, which is given too. Those after a hyphen are
cleared; none may occur twice, nor may the hyphen, and a flag must follow it. `seen` holds
what has been read, the last one first. -/
def readFlags? (seen : List Char) (flags : Flags) :
    List Char → Option (Flags × List Char × Char × List Char)
  | [] => none
  | mark :: rest =>
      if mark == ':' || mark == ')' then
        if seen.head? == some '-' then none else some (flags, seen, mark, rest)
      else if seen.contains mark then none
      else if mark == '-' then readFlags? (mark :: seen) flags rest
      else do
        let flags ← flags.set? (!seen.contains '-') mark
        readFlags? (mark :: seen) flags rest

def readOpening? (reading : Reading) (text : List Char) : Option (Reading × List Char) :=
  let named (rest : List Char) := do
    let (name, rest) ← groupName? rest
    return (← reading.openNamed? name, rest)
  match reading.branch.flags.skip text with
  | '?' :: '=' :: _ | '?' :: '!' :: _ | '?' :: '<' :: '=' :: _ | '?' :: '<' :: '!' :: _ => none
  | '?' :: 'P' :: '<' :: rest => named rest
  | '?' :: '<' :: rest => named rest
  | '?' :: rest => do
      let (flags, seen, mark, rest) ← readFlags? [] reading.branch.flags rest
      if mark == ':' then return (reading.openGroup none flags, rest)
      else if seen.isEmpty then none
      else return (reading.modify (·.setFlags flags), rest)
  | text => some (reading.openNumbered, text)

/-- A count of repetitions, which fits a 32-bit word. -/
def readCount? (flags : Flags) (text : List Char) : Option (Nat × List Char) :=
  let text := Text.trimStart text
  let (digits, rest) := collect flags Char.isDigit text.length text
  let count := Nat.ofDigitChars 10 digits 0
  if digits.isEmpty || count ≥ UInt32.size then none else some (count, Text.trimStart rest)

/-- The counts after an opening brace: `2`, `2,` or `2,3`. -/
def readCounts? (flags : Flags) (text : List Char) : Option (Nat × Option Nat × List Char) := do
  let (least, rest) ← readCount? flags (flags.skip text)
  match rest with
  | '\x7d' :: rest => return (least, some least, rest)
  | ',' :: rest =>
      match flags.skip rest with
      | '\x7d' :: rest => return (least, none, rest)
      | text =>
          let (most, rest) ← readCount? flags text
          match rest with
          | '\x7d' :: rest => if least ≤ most then return (least, some most, rest) else none
          | _ => none
  | _ => none

def readEager : List Char → Bool × List Char
  | '?' :: rest => (false, rest)
  | text => (true, text)

def repeatLast? (reading : Reading) (least : Nat) (most : Option Nat) (text : List Char) :
    Option (Reading × List Char) := do
  let (eager, rest) := readEager text
  return ({ reading with branch := ← reading.branch.repeat? least most eager }, rest)

def nodeOfAtom (flags : Flags) : Atom → Node
  | .letter letter => .ofSet (flags.letterSet letter)
  | .set set => .ofSet set
  | .place place => .place place

def step? (reading : Reading) (character : Char) (rest : List Char) :
    Option (Reading × List Char) :=
  let flags := reading.branch.flags
  let add (node : Node) (rest : List Char) := some (reading.modify (·.add { node }), rest)
  match character with
  | '(' => readOpening? reading rest
  | ')' => reading.closeGroup?.map (·, rest)
  | '|' => some (reading.modify (·.beginAlternative), rest)
  | '[' => do
      let (whole, rest) ← bracketSet? flags rest
      return (reading.modify (·.add { node := .ofSet whole.set, depth := whole.depth }), rest)
  | '?' => repeatLast? reading 0 (some 1) rest
  | '*' => repeatLast? reading 0 none rest
  | '+' => repeatLast? reading 1 none rest
  | '\x7b' => do
      let (least, most, rest) ← readCounts? flags rest
      repeatLast? reading least most (flags.skip rest)
  | '\\' => do
      let (atom, rest) ← escape? flags rest
      add (nodeOfAtom flags atom) rest
  | '.' => do add (.ofSet (← flags.point?)) rest
  | '^' => add (.place flags.lineStart) rest
  | '$' => add (.place flags.lineEnd) rest
  | letter => add (.ofSet (flags.letterSet letter)) rest

/-- Reads to the end of the text. Every turn takes at least one character, so `fuel` may be
the length of the text. -/
def readAll? : (fuel : Nat) → (reading : Reading) → (text : List Char) → Option Reading
  | 0, reading, text => if text.isEmpty then some reading else none
  | fuel + 1, reading, text =>
      match reading.branch.flags.skip text with
      | [] => some reading
      | character :: rest => do
          let (reading, rest) ← step? reading character rest
          readAll? fuel reading rest

def deepest : Nat := 250

def Expression.ofText? (text : String) : Option Expression := do
  let reading ← readAll? text.toList.length { branch := { flags := {} } } text.toList
  let whole := reading.branch.part
  if !reading.groups.isEmpty || whole.depth > deepest || !whole.node.fits then none
  else return { root := whole.node, names := reading.names }

end Reshape.Pattern
