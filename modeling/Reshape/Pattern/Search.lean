import Std.Data.HashSet
import Reshape.Pattern.Machine
/-!
Searching a text for a pattern. Of all the ways in which the machine can go on, the search
follows the preferred one and returns to another when it fails. It does not enter a step at
a position again where it has been, as that fails too; so a search takes time in
proportion to the sizes of the machine and the text.
-/

namespace Reshape.Pattern

/-- A way to go on: a step, a position, and the positions recorded so far, latest first. -/
structure Trail where
  step : Nat
  position : Nat
  recorded : List (Nat × Nat) := []

structure Match where
  first : Nat
  last : Nat
  recorded : List (Nat × Nat)

namespace Trail

def goTo (trail : Trail) (step : Nat) : Trail := { trail with step }

def next (trail : Trail) (text : Array Char) : Step → List Trail
  | .accept => []
  | .read set step =>
      match text[trail.position]? with
      | some character =>
          if set.contains character then [{ trail with step, position := trail.position + 1 }]
          else []
      | none => []
  | .check place step =>
      let before := if trail.position = 0 then none else text[trail.position - 1]?
      if place.holds before text[trail.position]? then [trail.goTo step] else []
  | .record slot step => [{ trail with step, recorded := (slot, trail.position) :: trail.recorded }]
  | .fork steps => steps.map trail.goTo

end Trail

/-- Follows trails, the first one first. Gives the trail that comes to accept, if one does,
and the steps with positions where the search has been. -/
def follow (steps : Array Step) (text : Array Char) : (fuel : Nat) → (trails : List Trail) →
    (visited : Std.HashSet Nat) → Option Trail × Std.HashSet Nat
  | 0, _, visited => (none, visited)
  | _ + 1, [], visited => (none, visited)
  | fuel + 1, trail :: others, visited =>
      let place := trail.position * steps.size + trail.step
      if visited.contains place then follow steps text fuel others visited
      else
        match steps[trail.step]? with
        | some .accept => (some trail, visited)
        | some step =>
            follow steps text fuel (trail.next text step ++ others) (visited.insert place)
        | none => follow steps text fuel others visited

def Step.degree : Step → Nat
  | .accept => 0
  | .fork choices => choices.length
  | _ => 1

/-- A bound on the trails that a search follows: each is the first one, or comes after a
step at a position. -/
def fuelFor (steps : Array Step) (text : Array Char) : Nat :=
  steps.foldl (fun total step => total + step.degree) 0 * (text.size + 1) + 2

def searchFrom (machine : Start) (fuel : Nat) (text : Array Char) : (count position : Nat) →
    (visited : Std.HashSet Nat) → Option Match
  | 0, _, _ => none
  | count + 1, position, visited =>
      match follow machine.steps text fuel [{ step := machine.first, position }] visited with
      | (some trail, _) =>
          some { first := position, last := trail.position, recorded := trail.recorded }
      | (none, visited) => searchFrom machine fuel text count (position + 1) visited

def search? (machine : Start) (text : Array Char) (position : Nat) : Option Match :=
  searchFrom machine (fuelFor machine.steps text) text (text.size + 1 - position) position ∅

/-- All matches from a position on, from left to right. An empty match does not count where
the match before it ended; `ended` is that place. -/
def matchesFrom (machine : Start) (text : Array Char) : (count position : Nat) →
    (ended : Option Nat) → List Match
  | 0, _, _ => []
  | count + 1, position, ended =>
      match search? machine text position with
      | none => []
      | some found =>
          if found.first = found.last && ended == some found.last then
            match search? machine text (position + 1) with
            | none => []
            | some found => found :: matchesFrom machine text count found.last (some found.last)
          else found :: matchesFrom machine text count found.last (some found.last)

def allMatches (machine : Start) (text : Array Char) : List Match :=
  matchesFrom machine text (text.size + 1) 0 none

end Reshape.Pattern
