import Std.Data.HashMap
import Reshape.Pattern.Node
/-!
The memory of a byte machine for a pattern. Such a machine reads the bytes of a text in
UTF-8; it has states for bytes, places, records and choices. Two machines are made for a
pattern, one for each direction of reading, and a pattern is too large if either of them is.
Here no machine is made; the states are counted in the order in which they would be made.

Characters of a set share states where their last bytes agree. The states that may be
shared are found in a table with a fixed number of places: a state takes its place from one
that was there before.
-/

namespace Reshape.Pattern

open Text (CharSet)

structure ByteSpan where
  first : Nat
  last : Nat
deriving DecidableEq

/-- The code points that are written with one number of bytes: `mark` is added to the
leading bits of a code point, and `tail` bytes with six bits each follow. Those of three
bytes stand on two sides of the surrogates. -/
structure ByteForm where
  first : Nat
  stop : Nat
  mark : Nat
  tail : Nat

def byteForms : List ByteForm :=
  [{ first := 0, stop := 0x80, mark := 0, tail := 0 },
    { first := 0x80, stop := 0x800, mark := 0xC0, tail := 1 },
    { first := 0x800, stop := 0xD800, mark := 0xE0, tail := 2 },
    { first := 0xE000, stop := 0x10000, mark := 0xE0, tail := 2 },
    { first := 0x10000, stop := 0x110000, mark := 0xF0, tail := 3 }]

/-- The byte spans of the code points from `first` to `last`, in order. Every sequence of
spans stands for all sequences of bytes in them. -/
def byteSequences (mark : Nat) : (tail first last : Nat) → List (List ByteSpan)
  | 0, first, last => [[{ first := mark + first, last := mark + last }]]
  | tail + 1, first, last =>
      let unit := Nat.pow 64 (tail + 1)
      let lead (low high : Nat) (rests : List (List ByteSpan)) :=
        rests.map ({ first := mark + low, last := mark + high } :: ·)
      let low := first / unit
      let high := last / unit
      if low = high then lead low low (byteSequences 0x80 tail (first % unit) (last % unit))
      else
        let startsWhole := first % unit = 0
        let endsWhole := last % unit = unit - 1
        let wholeLow := if startsWhole then low else low + 1
        let wholeStop := if endsWhole then high + 1 else high
        let front :=
          if startsWhole then []
          else lead low low (byteSequences 0x80 tail (first % unit) (unit - 1))
        let middle :=
          if wholeLow < wholeStop then
            lead wholeLow (wholeStop - 1) (byteSequences 0x80 tail 0 (unit - 1))
          else []
        let back :=
          if endsWhole then [] else lead high high (byteSequences 0x80 tail 0 (last % unit))
        front ++ middle ++ back

def sequencesOf (set : CharSet) : List (List ByteSpan) :=
  set.spans.flatMap fun span => byteForms.flatMap fun form =>
    let first := max span.first form.first
    let stop := min span.stop form.stop
    if first < stop then byteSequences form.mark form.tail first (stop - 1) else []

/-- Byte sequences that share their fronts: a span, what follows it, and the other spans at
its place. A leaf ends the spans of a place; as what follows, it ends a sequence. -/
inductive ByteTree where
  | leaf
  | branch (span : ByteSpan) (next others : ByteTree)

namespace ByteTree

def insert : (sequence : List ByteSpan) → ByteTree → ByteTree
  | [], tree => tree
  | span :: rest, .branch first next others =>
      if span = first then .branch first (insert rest next) others
      else .branch span (insert rest .leaf) (.branch first next others)
  | span :: rest, .leaf => .branch span (insert rest .leaf) .leaf

def ofSequences (sequences : List (List ByteSpan)) : ByteTree := sequences.foldr insert .leaf

end ByteTree

/-- How many states have been made, and what memory they have beyond a fixed size. -/
structure Footprint where
  states : Nat
  extra : Nat

namespace Footprint

def add (footprint : Footprint) (states extra : Nat) : Footprint :=
  { states := footprint.states + states, extra := footprint.extra + extra }

/-- A machine may take ten mebibytes. A state takes 32 bytes. -/
def fits (footprint : Footprint) : Bool := 32 * footprint.states + footprint.extra ≤ 10485760

end Footprint

/-- States that can be shared. A state is known by numbers that say what it does. -/
structure Shared where
  footprint : Footprint
  places : Nat
  table : Std.HashMap Nat (List Nat × Nat) := ∅

namespace Shared

def placeOf (shared : Shared) (key : List Nat) : Nat :=
  let hash := key.foldl (fun hash number => (hash ^^^ number.toUInt64) * 1099511628211)
    (14695981039346656037 : UInt64)
  hash.toNat % shared.places

def find? (shared : Shared) (place : Nat) (key : List Nat) : Option Nat :=
  match shared.table[place]? with
  | some (known, number) => if known == key then some number else none
  | none => none

/-- The state that does what the key says, made now if it cannot be found. -/
def state (shared : Shared) (key : List Nat) (extra : Nat) : Nat × Shared :=
  let place := shared.placeOf key
  match shared.find? place key with
  | some number => (number, shared)
  | none =>
      let number := shared.footprint.states
      (number, { shared with
        footprint := shared.footprint.add 1 extra
        table := shared.table.insert place (key, number) })

def branches (shared : Shared) (key : List Nat) : Nat × Shared :=
  shared.state key (8 * (key.length / 3))

/-- Makes the states of a tree save the first one and gives the key of that: for each span its
ends and the state that follows. Sequences end at `target`. -/
def ofTree (target : Nat) : ByteTree → Shared → List Nat × Shared
  | .leaf, shared => ([], shared)
  | .branch span next others, shared =>
      let (key, shared) := ofTree target next shared
      let (follower, shared) :=
        if key.isEmpty then (target, shared) else shared.branches key
      let (more, shared) := ofTree target others shared
      (span.first :: span.last :: follower :: more, shared)

def ofSequence (target : Nat) (shared : Shared) (sequence : List ByteSpan) : Shared :=
  (sequence.foldl
    (fun (target, shared) span => shared.state [target, span.first, span.last] 0)
    (target, shared)).2

end Shared

namespace Footprint

def grow? (footprint : Footprint) (states extra : Nat) : Option Footprint :=
  let grown := footprint.add states extra
  if grown.fits then some grown else none

/-- Adds a character of a set. A set of ASCII takes one state with all its spans. From the
last byte to the first there is a choice between the sequences; else states branch. -/
def addSet? (footprint : Footprint) (backward : Bool) (set : CharSet) : Option Footprint :=
  if set.isAscii then footprint.grow? 2 (8 * set.spans.length)
  else
    let sequences := sequencesOf set
    let made :=
      if backward then
        let footprint := footprint.add 2 (4 * sequences.length)
        sequences.foldl (Shared.ofSequence (footprint.states - 1)) { footprint, places := 1000 }
      else
        let start : Shared := { footprint := footprint.add 1 0, places := 10000 }
        let (key, shared) :=
          Shared.ofTree footprint.states (ByteTree.ofSequences sequences) start
        (shared.branches key).2
    made.footprint.grow? 0 0

def repeat? (add? : Footprint → Option Footprint) : (count : Nat) → Footprint → Option Footprint
  | 0, footprint => some footprint
  | count + 1, footprint =>
      match add? footprint with
      | some footprint => repeat? add? count footprint
      | none => none

/-- Adds a repetition. Copies of the body that must be there come first; then there is a
choice before each further one, or after the last one. -/
def addRepetition? (body : Footprint → Option Footprint) (filled : Bool) (least : Nat)
    (most : Option Nat) (footprint : Footprint) : Option Footprint :=
  match least, most with
  | 0, some 1 => do (← body (← footprint.grow? 1 8)).grow? 1 0
  | 0, none => do
      if filled then body (← footprint.grow? 1 8)
      else (← body footprint).grow? 3 16
  | least, none => do (← repeat? body least footprint).grow? 1 8
  | least, some most => do
      if least = most then repeat? body least footprint
      else
        let footprint ← if least = 0 then footprint.grow? 1 0 else repeat? body least footprint
        let optional (footprint : Footprint) : Option Footprint := do
          body (← footprint.grow? 1 8)
        repeat? optional (most - least) (← footprint.grow? 1 0)

def partsOf : (texts : List (List UInt8)) → List (List (List UInt8))
  | [] => [[]]
  | text :: rest =>
      match text, partsOf rest with
      | [], parts => [] :: parts
      | text, first :: parts => (text :: first) :: parts
      | text, [] => [[text]]

def rests (texts : List (List UInt8)) (byte : UInt8) : List (List UInt8) :=
  texts.filterMap fun text => if text.head? == some byte then text.tail? else none

/-- Adds a choice between texts, given by their bytes, that share the states for the fronts
that they have in common. Texts that have ended divide the others into parts; each part takes
a state for the next bytes, and one more is the choice between the parts. -/
def addTexts : (longest : Nat) → (texts : List (List UInt8)) → Footprint → Footprint
  | 0, _, footprint => footprint
  | longest + 1, texts, footprint =>
      if texts.all List.isEmpty then footprint
      else
        let others := texts.dropWhile List.isEmpty
        let parts := partsOf (if others.length < texts.length then [] :: others else others)
        let filled := parts.filter fun part => !part.isEmpty
        let footprint := footprint.add 1 (4 * (filled.length + parts.length - 1))
        filled.foldl
          (fun footprint part =>
            let bytes := (part.filterMap List.head?).eraseDups
            let footprint := footprint.add 1 (if bytes.length > 1 then 8 * bytes.length else 0)
            bytes.foldl (fun footprint byte => addTexts longest (rests part byte) footprint)
              footprint)
          footprint

end Footprint

namespace Node

def bytes? : Node → Option (List UInt8)
  | .text letters => some (String.ofList letters).toUTF8.toList
  | _ => none

mutual

def footprint? (backward : Bool) : Node → Footprint → Option Footprint
  | .empty, footprint | .place _, footprint => footprint.grow? 1 0
  | .text letters, footprint => footprint.grow? (String.ofList letters).utf8ByteSize 0
  | .one set, footprint => footprint.addSet? backward set
  | .group _ body, footprint =>
      if backward then body.footprint? backward footprint
      else do (← body.footprint? backward (← footprint.grow? 1 0)).grow? 1 0
  | .sequence parts, footprint => sequenceFootprint? backward parts footprint
  | .choice alternatives, footprint =>
      match alternatives.mapM bytes? with
      | some texts =>
          let texts := if backward then texts.map List.reverse else texts
          let longest := (texts.map List.length).foldl max 0
          ((footprint.add 1 0).addTexts (longest + 1) texts).grow? 0 0
      | none => choiceFootprint? backward 0 alternatives footprint
  | .repetition body least most _, footprint =>
      Footprint.addRepetition? (body.footprint? backward) body.isFilled least most footprint

def sequenceFootprint? (backward : Bool) : List Node → Footprint → Option Footprint
  | [], footprint => some footprint
  | first :: rest, footprint => do
      if backward then
        first.footprint? backward (← sequenceFootprint? backward rest footprint)
      else sequenceFootprint? backward rest (← first.footprint? backward footprint)

/-- Adds alternatives, of which `count` have been added. Two states, for where they part and
where they meet, come after the second one. -/
def choiceFootprint? (backward : Bool) (count : Nat) :
    List Node → Footprint → Option Footprint
  | [], footprint => some footprint
  | first :: rest, footprint => do
      let footprint ← first.footprint? backward footprint
      let footprint ← footprint.grow? (if count = 1 then 2 else 0) 4
      choiceFootprint? backward (count + 1) rest footprint

end

/-- What stands before a pattern: the choice to pass over a byte, unless every match begins at
an end of the text. -/
def beginning (node : Node) (backward : Bool) : Footprint :=
  let isBound := if backward then node.isBoundTo .textEnd true else node.isBoundTo .textStart false
  if isBound then { states := 1, extra := 0 } else { states := 3, extra := 16 }

/-- Whether the machines for a pattern, in which the forward one records the match, are not
too large. -/
def fits (node : Node) : Bool :=
  let forward := do
    (← node.footprint? false (← (node.beginning false).grow? 1 0)).grow? 2 0
  let backward := do (← node.footprint? true (node.beginning true)).grow? 1 0
  forward.isSome && backward.isSome

end Node

end Reshape.Pattern
