import Reshape.Pattern.Node
/-!
Machines for patterns. A machine is a list of steps; each reads a character, tests a place,
records a position or goes on at one of several steps, in the order of preference. A
pattern is turned into steps from its end to its beginning, so that the step that comes
next is known.
-/

namespace Reshape.Pattern

inductive Step where
  | accept
  | read (set : Text.CharSet) (next : Nat)
  | check (place : Place) (next : Nat)
  /-- Records the position under a number: 2n where group n begins, 2n + 1 where it ends. -/
  | record (slot next : Nat)
  | fork (choices : List Nat)

structure Start where
  steps : Array Step
  first : Nat

namespace Start

def put (start : Start) (step : Step) : Start :=
  let first := start.steps.size
  { steps := start.steps.push step, first }

def putRead (start : Start) (set : Text.CharSet) : Start := start.put (.read set start.first)

def inOrder (eager : Bool) (inner outer : Nat) : List Nat :=
  if eager then [inner, outer] else [outer, inner]

def orElse (start : Start) (other : Nat) (eager : Bool) : Start :=
  start.put (.fork (inOrder eager start.first other))

/-- Makes the body again and again, each time before what has been made. -/
def copies (body : Start → Start) : (count : Nat) → Start → Start
  | 0, start => start
  | count + 1, start => copies body count (body start)

/-- Up to `count` bodies, each of which may be the last; then it goes on at `after`. -/
def optionalCopies (body : Start → Start) (eager : Bool) (after : Nat) :
    (count : Nat) → Start → Start
  | 0, start => start
  | count + 1, start => optionalCopies body eager after count ((body start).orElse after eager)

def oneOrMore (body : Start → Start) (eager : Bool) : Start → Start × Nat
  | { steps, first := after } =>
      let choice := steps.size
      let { steps, first } := body { steps := steps.push (.fork []), first := choice }
      let steps := steps.setIfInBounds choice (.fork (inOrder eager first after))
      ({ steps, first }, choice)

/-- Any number of bodies. If the body can be empty, the choice before the first one is a
step of its own, so that an empty body is followed by the choice to stop. -/
def zeroOrMore (body : Start → Start) (filled eager : Bool) : Start → Start
  | { steps, first := after } =>
      let (more, choice) := oneOrMore body eager { steps, first := after }
      if filled then { more with first := choice } else more.orElse after eager

def repetition (body : Start → Start) (filled eager : Bool) (least : Nat) (most : Option Nat) :
    Start → Start
  | { steps, first := after } =>
      let start : Start := { steps, first := after }
      match most with
      | some most => copies body least (optionalCopies body eager after (most - least) start)
      | none =>
          if least = 0 then zeroOrMore body filled eager start
          else copies body (least - 1) (oneOrMore body eager start).1

end Start

mutual

def Node.before : Node → Start → Start
  | .empty, start => start
  | .text letters, start =>
      letters.foldr (fun letter start => start.putRead (.single letter)) start
  | .one set, start => start.putRead set
  | .place test, start => start.put (.check test start.first)
  | .group number body, start =>
      let inner := body.before (start.put (.record (2 * number + 1) start.first))
      inner.put (.record (2 * number) inner.first)
  | .sequence parts, start => Node.allBefore parts start
  | .choice alternatives, { steps, first := after } =>
      let (steps, choices) := Node.eachBefore after alternatives steps
      Start.put { steps, first := after } (.fork choices)
  | .repetition body least most eager, start =>
      Start.repetition body.before body.isFilled eager least most start

def Node.allBefore : List Node → Start → Start
  | [], start => start
  | [last], start => last.before start
  | first :: rest, start => first.before (Node.allBefore rest start)

def Node.eachBefore (after : Nat) : List Node → Array Step → Array Step × List Nat
  | [], steps => (steps, [])
  | alternative :: rest, steps =>
      let { steps, first } := alternative.before { steps, first := after }
      let (steps, choices) := Node.eachBefore after rest steps
      (steps, first :: choices)

end

def Node.machine (node : Node) : Start := node.before { steps := #[.accept], first := 0 }

end Reshape.Pattern
