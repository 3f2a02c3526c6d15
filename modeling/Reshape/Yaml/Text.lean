import Reshape.Yaml.Cursor
import Reshape.Yaml.Scalar

namespace Reshape.Yaml

structure Scanned where
  text : List Char
  after : Cursor
  oneLine : Bool

/-- What `count` line breaks between two words become. -/
def folded (count : Nat) : List Char :=
  if count = 1 then [' '] else List.replicate (count - 1) '\n'

def isBracketMark (character : Char) : Bool :=
  character == ',' || character == '[' || character == ']' || character == '\x7b' ||
      character == '\x7d'

/-- The characters of a plain scalar up to a gap or a mark that ends it. In brackets a
colon may not stand right before another mark. -/
def plainWord? (inBrackets : Bool) : List Char → Option (List Char)
  | [] => some []
  | character :: rest =>
      if isGap character || (character == ':' && gapFollows rest) then some []
      else if inBrackets && character == ':' &&
          (rest.head?.any fun next => isBracketMark next || next == '?') then
        none
      else if inBrackets && isBracketMark character then some []
      else (plainWord? inBrackets rest).map (character :: ·)

/-- Skips the gap after a word: the blanks on its line, the number of line breaks, and the
place after all. -/
def gapAfterWord (breaks line column : Nat) (blanks : List Char) :
    List Char → List Char × Nat × Cursor
  | [] => (blanks.reverse, breaks, { rest := [], line, column })
  | character :: rest =>
      if character == '\n' then gapAfterWord (breaks + 1) (line + 1) 0 blanks rest
      else if character == ' ' || character == '\t' then
        let blanks := if breaks = 0 then character :: blanks else blanks
        gapAfterWord breaks line (column + 1) blanks rest
      else (blanks.reverse, breaks, { rest := character :: rest, line, column })

/-- The words of a plain scalar after the first one. Outside of brackets its lines must be
indented further than `indent`. Every turn reads at least a character. -/
def plainWords? (inBrackets : Bool) (indent : Int) :
    (fuel : Nat) → (scanned : Scanned) → Option Scanned
  | 0, scanned => some scanned
  | fuel + 1, scanned =>
      let (blanks, breaks, next) :=
        gapAfterWord 0 scanned.after.line scanned.after.column [] scanned.after.rest
      let ends := next.atEnd || next.rest.head? == some '#' ||
        (breaks > 0 && !inBrackets && (next.column : Int) ≤ indent) ||
          (breaks = 0 && blanks.isEmpty)
      if ends then some scanned
      else do
        let word ← plainWord? inBrackets next.rest
        if word.isEmpty then return scanned
        else
          plainWords? inBrackets indent fuel
            { text := scanned.text ++ (if breaks = 0 then blanks else folded breaks) ++ word
              after := next.advance word.length
              oneLine := scanned.oneLine && breaks = 0 }

def beginsPlain (inBrackets : Bool) : List Char → Bool
  | [] => false
  | character :: rest =>
      if character == '-' then !(rest.isEmpty || rest.head?.any isGap)
      else if character == '?' || character == ':' then !inBrackets && !gapFollows rest
      else !isGap character && !isBracketMark character && !"#&*!|>'\"%@`".toList.contains character

def plain? (inBrackets : Bool) (indent : Int) (cursor : Cursor) : Option Scanned := do
  if !beginsPlain inBrackets cursor.rest then none
  else
    let word ← plainWord? inBrackets cursor.rest
    plainWords? inBrackets indent cursor.rest.length
      { text := word, after := cursor.advance word.length, oneLine := true }

inductive QuotedPart where
  | letter (letter : Char) (after : Cursor)
  /-- A line break that is escaped, and so counts for nothing. -/
  | joined (after : Cursor)
  | gap
  | closed (after : Cursor)

def hexLetter? (cursor : Cursor) (count : Nat) : Option QuotedPart := do
  let digits := (cursor.rest.drop 2).take count
  let number ← if digits.length = count then digits? 16 digits else none
  if number.isValidChar then return .letter (Char.ofNat number) (cursor.advance (count + 2))
  else none

def escapedLetter? : (mark : Char) → Option Char
  | '0' => some '\x00'
  | 'a' => some '\x07'
  | 'b' => some '\x08'
  | 't' | '\t' => some '\t'
  | 'n' => some '\n'
  | 'v' => some '\x0b'
  | 'f' => some '\x0c'
  | 'r' => some '\r'
  | 'e' => some '\x1b'
  | ' ' => some ' '
  | '"' => some '"'
  | '/' => some '/'
  | '\\' => some '\\'
  | 'N' => some '\u0085'
  | '_' => some '\u00a0'
  | 'L' => some '\u2028'
  | 'P' => some '\u2029'
  | _ => none

def escapePart? (cursor : Cursor) : (mark : Char) → (rest : List Char) → Option QuotedPart
  | 'x', _ => hexLetter? cursor 2
  | 'u', _ => hexLetter? cursor 4
  | 'U', _ => hexLetter? cursor 8
  | '\n', rest => some (.joined { rest, line := cursor.line + 1, column := 0 })
  | mark, _ => (escapedLetter? mark).map fun letter => .letter letter (cursor.advance 2)

/-- What comes next in a scalar with double or single quotes. Only a line break that is
escaped ends a line without a gap. -/
def quotedPart? (double : Bool) (cursor : Cursor) : Option QuotedPart :=
  match cursor.rest with
  | [] => none
  | '\'' :: '\'' :: _ =>
      if double then some (.letter '\'' (cursor.advance 1))
      else some (.letter '\'' (cursor.advance 2))
  | '\\' :: mark :: rest =>
      if double then escapePart? cursor mark rest else some (.letter '\\' (cursor.advance 1))
  | character :: _ =>
      if character == (if double then '"' else '\'') then some (.closed (cursor.advance 1))
      else if isGap character then some .gap
      else if double && character == '\\' then none
      else some (.letter character (cursor.advance 1))

/-- The rest of a quoted scalar. `lineStart` holds where a line has just begun after an
escaped break: blanks there count for nothing. Every turn reads at least a character. -/
def quotedRest? (double : Bool) :
    (fuel : Nat) → (lineStart : Bool) → (scanned : Scanned) → Option Scanned
  | 0, _, _ => none
  | fuel + 1, lineStart, scanned =>
      if scanned.after.atMarker then none
      else do
        match ← quotedPart? double scanned.after with
        | .closed after => return { scanned with after }
        | .letter letter after =>
            quotedRest? double fuel false { scanned with text := scanned.text ++ [letter], after }
        | .joined after => quotedRest? double fuel true { scanned with after, oneLine := false }
        | .gap =>
            let (blanks, breaks, after) :=
              gapAfterWord 0 scanned.after.line scanned.after.column [] scanned.after.rest
            let gap :=
              if lineStart then List.replicate breaks '\n'
              else if breaks = 0 then blanks
              else folded breaks
            quotedRest? double fuel false
              { text := scanned.text ++ gap, after, oneLine := scanned.oneLine && breaks = 0 }

def quoted? (double : Bool) (cursor : Cursor) : Option Scanned :=
  quotedRest? double (cursor.rest.length + 1) false
    { text := [], after := cursor.advance 1, oneLine := true }

inductive Chomping where
  | strip
  | clip
  | keep

/-- How a block is written: whether its breaks fold, how its end is kept, and by how much it
is indented, if that is given. -/
structure BlockStyle where
  folds : Bool
  chomping : Chomping := .clip
  indent : Option Nat := none

def blockMarks? (signed : Bool) (style : BlockStyle) : List Char → Option (BlockStyle × List Char)
  | [] => some (style, [])
  | mark :: rest =>
      if mark == '+' || mark == '-' then
        if signed then none
        else blockMarks? true { style with chomping := if mark == '+' then .keep else .strip } rest
      else if mark.isDigit then
        if mark == '0' || style.indent.isSome then none
        else blockMarks? signed { style with indent := some (mark.toNat - '0'.toNat) } rest
      else some (style, mark :: rest)

/-- Empty lines at the front of a block, with no more blanks than the indentation. They end
at a line with text: the number of lines, the most blanks seen, and the place. Without
an indentation all blanks are taken. -/
def emptyLines? (indent : Option Nat) (count widest line column : Nat) :
    List Char → Option (Nat × Nat × Cursor)
  | [] => some (count, max widest column, { rest := [], line, column })
  | character :: rest =>
      let within := indent.all fun indent => column < indent
      if character == '\n' then emptyLines? indent (count + 1) (max widest column) (line + 1) 0 rest
      else if character == ' ' && within then emptyLines? indent count widest line (column + 1) rest
      else if character == '\t' && within then none
      else some (count, max widest column, { rest := character :: rest, line, column })

/-- What stands between two lines of a block with `empty` empty lines between them. Only a
folding block joins lines, and only where neither begins with a blank. -/
def lineGap (style : BlockStyle) (blankBefore blankAfter : Bool) (empty : Nat) : List Char :=
  if style.folds && !blankBefore && !blankAfter then
    if empty = 0 then [' '] else List.replicate empty '\n'
  else List.replicate (empty + 1) '\n'

/-- The lines of a block after the first one; `blank` tells whether the last line began with
a blank. Every turn reads at least a character. -/
def blockLines? (style : BlockStyle) (indent : Nat) : (fuel : Nat) → (text : List Char) →
    (blank : Bool) → (cursor : Cursor) → Option Scanned
  | 0, _, _, _ => none
  | fuel + 1, text, blank, cursor =>
      match cursor.rest with
      | [] => some { text, after := cursor, oneLine := false }
      | _ :: rest => do
          let (empty, _, next) ← emptyLines? (some indent) 0 0 (cursor.line + 1) 0 rest
          if next.column = indent && !next.rest.isEmpty then
            let content := next.rest.takeWhile (· != '\n')
            let blankNow := content.head?.any fun character => character == ' ' || character == '\t'
            let text := text ++ lineGap style blank blankNow empty ++ content
            blockLines? style indent fuel text blankNow
              (next.advance content.length)
          else
            let ending := match style.chomping with
              | .strip => []
              | .clip => ['\n']
              | .keep => List.replicate (empty + 1) '\n'
            return { text := text ++ ending, after := next, oneLine := false }

/-- A block scalar; the place is that of its mark. It is indented as its first line with
text, but at least further than what it belongs to. -/
def block? (indent : Int) (cursor : Cursor) : Option Scanned := do
  let mark ← cursor.rest.head?
  let (style, rest) ← blockMarks? false { folds := mark == '>' } (cursor.rest.drop 1)
  let gap := rest.takeWhile fun character => character == ' ' || character == '\t'
  match rest.drop gap.length with
  | [] => return { text := [], after := { cursor with rest := [] }, oneLine := false }
  | character :: rest =>
      let rest ← if character == '\n' then some rest
        else if character == '#' then some ((rest.dropWhile (· != '\n')).drop 1)
        else none
      let least := (max indent 0).toNat
      let given := style.indent.map (least + ·)
      let (empty, widest, next) ← emptyLines? given 0 0 (cursor.line + 1) 0 rest
      let indent := given.getD (max (max widest (indent + 1).toNat) 1)
      if next.column = indent && !next.rest.isEmpty then
        let content := next.rest.takeWhile (· != '\n')
        let blank := content.head?.any fun character => character == ' ' || character == '\t'
        blockLines? style indent next.rest.length (List.replicate empty '\n' ++ content) blank
          (next.advance content.length)
      else
        let ending := match style.chomping with
          | .keep => List.replicate empty '\n'
          | _ => []
        return { text := ending, after := next, oneLine := false }

end Reshape.Yaml
