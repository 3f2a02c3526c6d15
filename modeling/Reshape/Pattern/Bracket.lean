import Reshape.Pattern.Escape

namespace Reshape.Pattern

open Text (CharSet)

inductive SetOperation where
  | intersection
  | difference
  | symmetricDifference

def SetOperation.apply (operation : SetOperation) (left right : CharSet) : CharSet :=
  match operation with
  | .intersection => left.intersection right
  | .difference => left.difference right
  | .symmetricDifference => left.symmetricDifference right

structure SetPart where
  set : CharSet
  depth : Nat := 0

/-- The depth of a whole whose parts have some depths; a single part stands for itself. -/
def depthOfWhole : (depths : List Nat) → Nat
  | [] => 0
  | [only] => only
  | depths => depths.foldl max 0 + 1

/-- A bracket that is still open. -/
structure OpenSet where
  negated : Bool
  /-- The left side of an operation whose right side is being read. -/
  left : Option (SetOperation × SetPart) := none
  members : List SetPart := []

namespace OpenSet

def add (bracket : OpenSet) (member : SetPart) : OpenSet :=
  { bracket with members := member :: bracket.members }

/-- What has been read since the last operation. -/
def right (bracket : OpenSet) : SetPart :=
  { set := .unionAll (bracket.members.map SetPart.set)
    depth := depthOfWhole (bracket.members.map SetPart.depth) }

/-- Both sides of an operation hold all cases of their letters if case is ignored. -/
def combined (flags : Flags) (bracket : OpenSet) : SetPart :=
  match bracket.left with
  | some (operation, left) =>
      { set := operation.apply (flags.closeCase left.set) (flags.closeCase bracket.right.set)
        depth := max left.depth bracket.right.depth + 1 }
  | none => bracket.right

def beginOperation (flags : Flags) (bracket : OpenSet) (operation : SetOperation) : OpenSet :=
  { bracket with left := some (operation, bracket.combined flags), members := [] }

def close? (flags : Flags) (bracket : OpenSet) : Option SetPart := do
  let whole := bracket.combined flags
  let set ← flags.negateIf? bracket.negated (flags.closeCase whole.set)
  return { set, depth := whole.depth + 1 }

end OpenSet

def memberLetter? (flags : Flags) (letter : Char) : Option Char :=
  if flags.unicode || letter.val < 128 then some letter else none

def member? (flags : Flags) : (text : List Char) → Option (Atom × List Char)
  | [] => none
  | '\\' :: rest => escape? flags rest
  | letter :: rest => some (.letter letter, rest)

def setOfAtom? (flags : Flags) : Atom → Option CharSet
  | .letter letter => (memberLetter? flags letter).map CharSet.single
  | .set set => some set
  | .place _ => none

/-- A member of a set, or a range of letters. A hyphen before `]` or another hyphen is not
that of a range. -/
def memberOrRange? (flags : Flags) (text : List Char) : Option (CharSet × List Char) := do
  let (first, rest) ← member? flags text
  match flags.skip rest with
  | [] => none
  | '-' :: rest =>
      match flags.skip rest with
      | [] => none
      | ']' :: _ | '-' :: _ => return (← setOfAtom? flags first, '-' :: rest)
      | text =>
          let (last, rest) ← member? flags text
          match first, last with
          | .letter first, .letter last =>
              let first ← memberLetter? flags first
              let last ← memberLetter? flags last
              if first ≤ last then return (CharSet.range first last, rest) else none
          | _, _ => none
  | rest => return (← setOfAtom? flags first, rest)

def leadingHyphens (flags : Flags) : (most : Nat) → (bracket : OpenSet) → (text : List Char) →
    OpenSet × List Char
  | most + 1, bracket, '-' :: rest =>
      leadingHyphens flags most (bracket.add { set := .single '-' }) (flags.skip rest)
  | _, bracket, text => (bracket, text)

/-- What stands after an opening bracket: `^` for a complement, then hyphens, or else a
closing bracket, that are members. -/
def openSet (flags : Flags) (text : List Char) : OpenSet × List Char :=
  let text := flags.skip text
  let (negated, text) := match text with
    | '^' :: rest => (true, flags.skip rest)
    | text => (false, text)
  match text with
  | ']' :: rest => (({ negated } : OpenSet).add { set := .single ']' }, flags.skip rest)
  | text => leadingHyphens flags text.length { negated } text

/-- A class of ASCII such as `[:alpha:]` or `[:^alpha:]`, if a bracket begins one: its set,
which without Unicode must not be complemented, and the text after it. -/
def namedClass? (flags : Flags) (text : List Char) : Option (Option CharSet × List Char) :=
  match text with
  | ':' :: rest => do
      let (negated, rest) := match rest with
        | '^' :: rest => (true, rest)
        | rest => (false, rest)
      let (name, rest) ← cutAt? [':'] rest
      match rest with
      | ']' :: rest =>
          let set ← classSet? (String.ofList name)
          return (flags.negateIf? negated (flags.closeCase set), rest)
      | _ => none
  | _ => none

/-- The set whose brackets are open, innermost first, and the text after the last closing
one. Every turn takes at least one character, so `fuel` may be the length of the text. -/
def readSet? (flags : Flags) : (fuel : Nat) → (bracket : OpenSet) → (outer : List OpenSet) →
    (text : List Char) → Option (SetPart × List Char)
  | 0, _, _, _ => none
  | fuel + 1, bracket, outer, text =>
      match flags.skip text with
      | [] => none
      | '[' :: rest =>
          match namedClass? flags rest with
          | some (some set, rest) => readSet? flags fuel (bracket.add { set }) outer rest
          | some (none, _) => none
          | none =>
              let (inner, rest) := openSet flags rest
              readSet? flags fuel inner (bracket :: outer) rest
      | ']' :: rest => do
          let closed ← bracket.close? flags
          match outer with
          | [] => return (closed, rest)
          | enclosing :: outer => readSet? flags fuel (enclosing.add closed) outer rest
      | '&' :: '&' :: rest =>
          readSet? flags fuel (bracket.beginOperation flags .intersection) outer rest
      | '-' :: '-' :: rest =>
          readSet? flags fuel (bracket.beginOperation flags .difference) outer rest
      | '~' :: '~' :: rest =>
          readSet? flags fuel (bracket.beginOperation flags .symmetricDifference) outer rest
      | text => do
          let (set, rest) ← memberOrRange? flags text
          readSet? flags fuel (bracket.add { set }) outer rest

def bracketSet? (flags : Flags) (text : List Char) : Option (SetPart × List Char) :=
  let (bracket, rest) := openSet flags text
  readSet? flags (rest.length + 1) bracket [] rest

end Reshape.Pattern
