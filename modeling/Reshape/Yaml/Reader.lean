import Reshape.Yaml.Node
import Reshape.Yaml.Text
/-!
Reading YAML. Outside of brackets the columns of names and hyphens tell which list or map
they belong to. Anchors, tags, directives and names that are lists or maps are not read.
Each reader gives a node and the place after it; its fuel bounds the number of turns, of
which at most two take no character.
-/

namespace Reshape.Yaml

def scalarAt? (inBrackets : Bool) (indent : Int) (cursor : Cursor) : Option (Scanned × Bool) :=
  match cursor.rest with
  | '"' :: _ => (quoted? true cursor).map (·, false)
  | '\'' :: _ => (quoted? false cursor).map (·, false)
  | '|' :: _ => if inBrackets then none else (block? indent cursor).map (·, false)
  | '>' :: _ => if inBrackets then none else (block? indent cursor).map (·, false)
  | _ => (plain? inBrackets indent cursor).map (·, true)

def Scanned.node (scanned : Scanned) (plain : Bool) : Node :=
  .scalar (String.ofList scanned.text) plain

def afterItem? (closing : Char) (cursor : Cursor) : Option Cursor :=
  match cursor.rest with
  | ',' :: _ => some (cursor.advance 1)
  | character :: _ => if character == closing then some cursor else none
  | [] => none

mutual

def bracketNode? : (fuel : Nat) → (cursor : Cursor) → Option (Node × Cursor)
  | 0, _ => none
  | fuel + 1, cursor =>
      match cursor.rest with
      | '[' :: _ => bracketItems? fuel [] (cursor.advance 1)
      | '\x7b' :: _ => bracketEntries? fuel [] (cursor.advance 1)
      | _ => do
          let (scanned, plain) ← scalarAt? true 0 cursor
          return (scanned.node plain, scanned.after)

/-- The items of a list in brackets. A name with a value is a map of that entry alone. -/
def bracketItems? : (fuel : Nat) → (items : List Node) → (cursor : Cursor) → Option (Node × Cursor)
  | 0, _, _ => none
  | fuel + 1, items, cursor => do
      let start := cursor.skip true true
      if start.atMarker then none
      else if start.rest.head? == some ']' then return (.list items.reverse, start.advance 1)
      else
        let (item, after) ← bracketNode? fuel start
        let (item, after) ← bracketValue? fuel item start.line (after.skip true true)
        bracketItems? fuel (item :: items) (← afterItem? ']' (after.skip true true))

def bracketValue? : (fuel : Nat) → (item : Node) → (line : Nat) → (cursor : Cursor) →
    Option (Node × Cursor)
  | 0, _, _, _ => none
  | fuel + 1, item, line, cursor =>
      match cursor.rest, item with
      | ':' :: _, .scalar name _ =>
          if cursor.line != line then none
          else do
            let (value, after) ← bracketValueOrBlank? fuel ((cursor.advance 1).skip true true)
            return (.map [(name, value)], after)
      | ':' :: _, _ => none
      | _, item => some (item, cursor)

def bracketValueOrBlank? : (fuel : Nat) → (cursor : Cursor) → Option (Node × Cursor)
  | 0, _ => none
  | fuel + 1, cursor =>
      match cursor.rest with
      | ',' :: _ | ']' :: _ | '\x7d' :: _ => some (.blank, cursor)
      | _ => bracketNode? fuel cursor

/-- The entries of a map in braces. A name without a value has a blank one. -/
def bracketEntries? : (fuel : Nat) → (entries : List (String × Node)) → (cursor : Cursor) →
    Option (Node × Cursor)
  | 0, _, _ => none
  | fuel + 1, entries, cursor => do
      let start := cursor.skip true true
      if start.atMarker then none
      else if start.rest.head? == some '\x7d' then return (.map entries.reverse, start.advance 1)
      else
        let (name, _) ← scalarAt? true 0 start
        let next := name.after.skip true true
        let (value, after) ←
          if next.rest.head? == some ':' then
            if name.oneLine && next.line == start.line then
              bracketValueOrBlank? fuel ((next.advance 1).skip true true)
            else none
          else some (.blank, next)
        bracketEntries? fuel ((String.ofList name.text, value) :: entries)
          (← afterItem? '\x7d' (after.skip true true))

end

mutual

/-- A node outside of brackets that is indented further than `indent`. A list or map may
begin here only where `compound` says so: not after a colon on the same line. -/
def blockNode? : (fuel : Nat) → (indent : Int) → (compound : Bool) → (cursor : Cursor) →
    Option (Node × Cursor)
  | 0, _, _, _ => none
  | fuel + 1, indent, compound, cursor =>
      if cursor.atDash then
        if compound then blockItems? fuel cursor.column false [] cursor else none
      else if cursor.rest.head? == some '[' || cursor.rest.head? == some '\x7b' then do
        let (node, after) ← bracketNode? fuel cursor
        if after.skipBlanks.atColon then none else return (node, after)
      else do
        let (scanned, plain) ← scalarAt? false indent cursor
        if scanned.after.skipBlanks.atColon then
          if compound && scanned.oneLine then blockEntries? fuel cursor.column [] cursor else none
        else return (scanned.node plain, scanned.after)

/-- The items of a list whose hyphens stand in a column; the place is that of a hyphen. A list
that belongs to a name in the same column ends where another name stands. -/
def blockItems? : (fuel : Nat) → (column : Nat) → (ofName : Bool) → (items : List Node) →
    (cursor : Cursor) → Option (Node × Cursor)
  | 0, _, _, _, _ => none
  | fuel + 1, column, ofName, items, cursor => do
      let start := (cursor.advance 1).skip false false
      let (item, after) ←
        if start.atEnd || (start.line != cursor.line && start.column ≤ column) then
          some (Node.blank, start)
        else blockNode? fuel column true start
      let next := after.skipAfter
      let items := item :: items
      if next.atEnd || next.column < column then return (.list items.reverse, next)
      else if next.column = column && next.atDash then blockItems? fuel column ofName items next
      else if next.column = column && ofName then return (.list items.reverse, next)
      else none

def blockEntries? : (fuel : Nat) → (column : Nat) → (entries : List (String × Node)) →
    (cursor : Cursor) → Option (Node × Cursor)
  | 0, _, _, _ => none
  | fuel + 1, column, entries, cursor => do
      let (name, _) ← scalarAt? false column cursor
      let colon := name.after.skipBlanks
      if !name.oneLine || cursor.atDash || !colon.atColon then none
      else
        let start := (colon.advance 1).skipAfter
        let (value, after) ←
          if start.atEnd then some (Node.blank, start)
          else if start.line == cursor.line then blockNode? fuel column false start
          else if start.column > column then blockNode? fuel column true start
          else if start.column = column && start.atDash then blockItems? fuel column true [] start
          else some (Node.blank, start)
        let next := after.skipAfter
        let entries := (String.ofList name.text, value) :: entries
        if next.atEnd || next.column < column then return (.map entries.reverse, next)
        else if next.column = column then blockEntries? fuel column entries next
        else none

end

def isAllowed (character : Char) : Bool :=
  character == '\t' || character == '\n' || (' ' ≤ character && character ≤ '~') ||
    character == '\u0085' ||
    ('\u00a0' ≤ character && character != '\ufffe' && character != '\uffff')

def plainBreaks : List Char → List Char
  | [] => []
  | '\r' :: '\n' :: rest => '\n' :: plainBreaks rest
  | character :: rest => (if character == '\r' then '\n' else character) :: plainBreaks rest

def endsText : (fuel : Nat) → (cursor : Cursor) → Bool
  | 0, _ => false
  | fuel + 1, cursor =>
      let next := cursor.skip false false
      next.rest.isEmpty ||
        (next.atMarker && next.rest.head? == some '.' && endsText fuel (next.advance 3))

/-- The only document of a text. An empty text is a blank node, and so is nothing between
markers of the beginning and the end. -/
def Node.read? (text : String) : Option Node := do
  let characters := plainBreaks text.toList
  let characters := if characters.head? == some '\ufeff' then characters.drop 1 else characters
  if !characters.all isAllowed then none
  else
    let fuel := 4 * characters.length + 8
    let beginning := ({ rest := characters } : Cursor).skip false false
    let marked := beginning.atMarker && beginning.rest.head? == some '-'
    let start := if marked then (beginning.advance 3).skip false false else beginning
    let (node, after) ←
      if start.rest.isEmpty || (marked && start.atEnd) then some (Node.blank, start)
      else if start.atEnd then none
      else blockNode? fuel (-1) (!marked || start.line != beginning.line) start
    if node.depth ≤ 128 && endsText fuel after then return node else none

def read? (text : String) : Option Value := (Node.read? text).bind Node.value?

end Reshape.Yaml
