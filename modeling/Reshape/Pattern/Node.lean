import Reshape.Pattern.Place
/-!
Patterns as trees. A pattern describes texts: letters, single characters of a set, places
between characters, sequences, choices and repetitions of patterns. Groups record what they
match. Of the ways to match, the leftmost comes first, and then the one that the order of
the choices and the eagerness of the repetitions prefer.

The functions that make trees keep them plain: parts of sequences are no sequences, nor are
two texts neighbours in one; alternatives of choices are no choices; a choice of sets is a
set, and one of sequences begins where these differ.
-/

namespace Reshape.Pattern

open Text (CharSet)

inductive Node where
  | empty
  | text (letters : List Char)
  | one (set : CharSet)
  | place (place : Place)
  /-- A group that records what it matches under a number. -/
  | group (number : Nat) (body : Node)
  | sequence (parts : List Node)
  | choice (alternatives : List Node)
  | repetition (body : Node) (least : Nat) (most : Option Nat) (eager : Bool)

namespace Node

mutual

def same : Node → Node → Bool
  | .empty, .empty => true
  | .text letters, .text others => letters == others
  | .one set, .one other => set == other
  | .place test, .place other => test == other
  | .group number body, .group otherNumber other => number == otherNumber && body.same other
  | .sequence parts, .sequence others => areSame parts others
  | .choice alternatives, .choice others => areSame alternatives others
  | .repetition body least most eager, .repetition other otherLeast otherMost otherEager =>
      least == otherLeast && most == otherMost && eager == otherEager && body.same other
  | _, _ => false

def areSame : List Node → List Node → Bool
  | [], [] => true
  | first :: rest, other :: others => first.same other && areSame rest others
  | _, _ => false

end

def ofSet (set : CharSet) : Node :=
  match set.only? with
  | some letter => .text [letter]
  | none => .one set

def beforeParts : Node → List Node → List Node
  | .text letters, .text more :: rest => .text (letters ++ more) :: rest
  | part, rest => part :: rest

def parts : Node → List Node
  | .empty => []
  | .sequence parts => parts
  | part => [part]

def ofParts (nodes : List Node) : Node :=
  match (nodes.flatMap parts).foldr beforeParts [] with
  | [] => .empty
  | [part] => part
  | parts => .sequence parts

def alternatives : Node → List Node
  | .choice alternatives => alternatives
  | alternative => [alternative]

def letter? : Node → Option Char
  | .text [letter] => some letter
  | _ => none

def set? : Node → Option CharSet
  | .one set => some set
  | _ => none

/-- A choice between alternatives that are no choices. Letters make a set, and so do sets. -/
def ofFlatAlternatives : List Node → Node
  | [only] => only
  | alternatives =>
      match alternatives.mapM letter?, alternatives.mapM set? with
      | some letters, _ => ofSet (CharSet.ofChars letters)
      | none, some sets => ofSet (CharSet.unionAll sets)
      | none, none => .choice alternatives

def commonFront : List Node → List Node → List Node
  | first :: rest, other :: others =>
      if first.same other then first :: commonFront rest others else []
  | _, _ => []

def sharedFront (alternatives : List Node) : List Node :=
  let sequences := alternatives.map parts
  if sequences.all fun parts => parts.length > 1 then
    match sequences with
    | first :: rest => rest.foldl commonFront first
    | [] => []
  else []

def ofAlternatives (nodes : List Node) : Node :=
  match nodes.flatMap alternatives with
  | [only] => only
  | flat =>
      match sharedFront flat with
      | [] => ofFlatAlternatives flat
      | front =>
          let rests := flat.map fun node => ofParts (node.parts.drop front.length)
          ofParts (front ++ [ofFlatAlternatives (rests.flatMap alternatives)])

mutual

def isBlank : Node → Bool
  | .empty | .place _ => true
  | .text _ | .one _ => false
  | .group _ body => body.isBlank
  | .sequence parts => areBlank parts
  | .choice alternatives => areBlank alternatives
  | .repetition body _ _ _ => body.isBlank

def areBlank : List Node → Bool
  | [] => true
  | first :: rest => first.isBlank && areBlank rest

end

/-- A repetition. More than once makes no difference to a body that matches only the empty
text. -/
def repeated (body : Node) (least : Nat) (most : Option Nat) (eager : Bool) : Node :=
  let (least, most) :=
    if body.isBlank then (min least 1, some (min (most.getD 1) 1)) else (least, most)
  if most == some 0 then .empty
  else if least = 1 && most == some 1 then body
  else .repetition body least most eager

mutual

/-- The length of the shortest text that the pattern matches, by its shape. There is none
where a part has no member. -/
def leastLength? : Node → Option Nat
  | .empty | .place _ => some 0
  | .text letters => some letters.length
  | .one set => if set.isEmpty then none else some 1
  | .group _ body => body.leastLength?
  | .sequence parts => leastLengths? parts fun length total => length + total
  | .choice alternatives => leastLengths? alternatives min
  | .repetition body least _ _ => body.leastLength?.map (least * ·)

def leastLengths? (nodes : List Node) (join : Nat → Nat → Nat) : Option Nat :=
  match nodes with
  | [] => some 0
  | [only] => only.leastLength?
  | first :: rest => do return join (← first.leastLength?) (← leastLengths? rest join)

end

def isFilled (node : Node) : Bool := node.leastLength?.any (· > 0)

mutual

/-- Whether every match begins, or ends if `atEnd` holds, at some place. -/
def isBoundTo (place : Place) (atEnd : Bool) : Node → Bool
  | .empty | .text _ | .one _ => false
  | .place other => other == place
  | .group _ body => body.isBoundTo place atEnd
  | .sequence parts => (areBoundTo place atEnd parts).1
  | .choice alternatives => areAllBoundTo place atEnd alternatives
  | .repetition body least _ _ => least > 0 && body.isBoundTo place atEnd

/-- Whether a sequence is bound to a place, and whether it matches only the empty text. -/
def areBoundTo (place : Place) (atEnd : Bool) : List Node → Bool × Bool
  | [] => (false, true)
  | first :: rest =>
      let firstBound := first.isBoundTo place atEnd
      let (restBound, restBlank) := areBoundTo place atEnd rest
      if atEnd then (restBound || (restBlank && firstBound), restBlank && first.isBlank)
      else (firstBound || (first.isBlank && restBound), restBlank && first.isBlank)

def areAllBoundTo (place : Place) (atEnd : Bool) : List Node → Bool
  | [] => true
  | first :: rest => first.isBoundTo place atEnd && areAllBoundTo place atEnd rest

end

end Node

structure Expression where
  root : Node
  names : List (String × Nat)

end Reshape.Pattern
