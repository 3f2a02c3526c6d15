/-!
Sets of characters. A set is a list of spans of code points, in order and apart from each
other. No set holds a surrogate, and no span goes on across the surrogates, so that equal
sets have equal spans.
-/

namespace Reshape.Text

/-- The code points from `first` on and before `stop`. -/
structure Span where
  first : Nat
  stop : Nat
deriving DecidableEq

namespace Span

/-- Joins spans that overlap or touch. They come in the order of their first code points. -/
def joinAll : (last : Span) → List Span → List Span
  | last, [] => [last]
  | last, next :: rest =>
      if next.first ≤ last.stop then
        joinAll { last with stop := max last.stop next.stop } rest
      else last :: joinAll next rest

def withoutSurrogates (span : Span) : List Span :=
  [{ span with stop := min span.stop 0xD800 }, { span with first := max span.first 0xE000 }].filter
    fun part => part.first < part.stop

def gapsFrom (first : Nat) : List Span → List Span
  | [] => withoutSurrogates { first, stop := 0x110000 }
  | span :: rest => withoutSurrogates { first, stop := span.first } ++ gapsFrom span.stop rest

def covers (code : Nat) : List Span → Bool
  | [] => false
  | span :: rest => span.first ≤ code && (code < span.stop || covers code rest)

end Span

structure CharSet where
  spans : List Span
deriving DecidableEq

namespace CharSet

def ofSpans (spans : List Span) : CharSet :=
  let parts := spans.flatMap Span.withoutSurrogates
  match parts.mergeSort fun left right => left.first ≤ right.first with
  | [] => { spans := [] }
  | first :: rest => { spans := Span.joinAll first rest }

def ofPoints (points : List Nat) : CharSet :=
  ofSpans (points.map fun point => { first := point, stop := point + 1 })

def empty : CharSet := { spans := [] }

def range (first last : Char) : CharSet :=
  ofSpans [{ first := first.toNat, stop := last.toNat + 1 }]

def single (only : Char) : CharSet := range only only

def ofChars (characters : List Char) : CharSet := ofPoints (characters.map Char.toNat)

def contains (set : CharSet) (character : Char) : Bool := Span.covers character.toNat set.spans

def isEmpty (set : CharSet) : Bool := set.spans.isEmpty

def isAscii (set : CharSet) : Bool := set.spans.all fun span => span.stop ≤ 128

def only? (set : CharSet) : Option Char :=
  match set.spans with
  | [span] => if span.stop = span.first + 1 then some (Char.ofNat span.first) else none
  | _ => none

def complement (set : CharSet) : CharSet := { spans := Span.gapsFrom 0 set.spans }

def full : CharSet := empty.complement

def ascii : CharSet := range '\x00' '\x7f'

def union (left right : CharSet) : CharSet := ofSpans (left.spans ++ right.spans)

def unionAll (sets : List CharSet) : CharSet := ofSpans (sets.flatMap CharSet.spans)

def intersection (left right : CharSet) : CharSet :=
  (left.complement.union right.complement).complement

def difference (left right : CharSet) : CharSet := left.intersection right.complement

def symmetricDifference (left right : CharSet) : CharSet :=
  (left.difference right).union (right.difference left)

end CharSet

end Reshape.Text
