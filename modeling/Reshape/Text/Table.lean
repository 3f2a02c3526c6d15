import Reshape.Text.CharSet
/-!
Tables of sets of characters. An entry is written as its names, with colons between them,
and the spans of its set. A span is written as its distance from the one before it and the
number of its code points, such as `6+26`; without a number it is a single one.
-/

namespace Reshape.Text

def words (text : String) : List String :=
  ((text.splitOn "\n").flatMap (·.splitOn " ")).filter fun word => !word.isEmpty

/-- The spans that words describe, when the first is counted from a code point. -/
def spansFrom (place : Nat) : List String → List Span
  | [] => []
  | word :: rest =>
      let (distance, count) := word.toList.span Char.isDigit
      let first := place + Nat.ofDigitChars 10 distance 0
      let stop := first + max 1 (Nat.ofDigitChars 10 (count.drop 1) 0)
      { first, stop } :: spansFrom stop rest

def CharSet.ofWords (words : List String) : CharSet := { spans := spansFrom 0 words }

def CharSet.ofText (text : String) : CharSet := .ofWords (words text)

/-- A name without regard to case, spaces, `_` and `-`, nor to `is` at its front. -/
def comparedName (name : String) : String :=
  let letters := name.toList
  let (isFront, rest) :=
    if (letters.take 2).map Char.toLower == ['i', 's'] then (true, letters.drop 2)
    else (false, letters)
  let kept := rest.filter fun letter =>
    letter.val < 128 && letter != ' ' && letter != '_' && letter != '-'
  let compared := String.ofList (kept.map Char.toLower)
  if isFront && compared == "c" then "isc" else compared

structure Entry where
  names : List String
  words : List String

namespace Entry

def set (entry : Entry) : CharSet := .ofWords entry.words

def code (entry : Entry) : String := entry.names.headD ""

def isNamed (entry : Entry) (name : String) : Bool :=
  entry.names.any fun known => comparedName known == name

end Entry

abbrev Table := List Entry

namespace Table

/-- Reads a word before those that have been read. One that begins with a letter has the
names of an entry; the pending ones are the words since the last of these. -/
def readWord (word : String) (read : List String × Table) : List String × Table :=
  let (pending, table) := read
  if word.front.isDigit then (word :: pending, table)
  else ([], { names := word.splitOn ":", words := pending } :: table)

def ofText (text : String) : Table := ((words text).foldr readWord ([], [])).2

def find? (table : Table) (name : String) : Option Entry :=
  List.find? (·.isNamed name) table

def set? (table : Table) (name : String) : Option CharSet := (table.find? name).map Entry.set

def unionOf (table : Table) (accepts : (code : String) → Bool) : CharSet :=
  .unionAll ((List.filter (accepts ·.code) table).map Entry.set)

end Table

end Reshape.Text
