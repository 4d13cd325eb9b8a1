import BenchCampaign.Yaml.Property

/-!
# Tokens from layout

A block collection begins where a line is indented deeper than the block around
it and ends where a line is indented less.  A mapping entry may begin without a
question mark; then a token for its key goes in front of what turned out to be
the key once the colon is seen.  Such a key has to fit on one line and must not
be longer than 1024 bytes.

* `Layout.tokens`: the tokens of a text, with its layout made explicit.
-/

namespace BenchCampaign

namespace Yaml

/-- A place where a key may have begun. -/
structure PossibleKey where
  /-- Whether something has to be a key here, because a block mapping goes on. -/
  required : Bool
  /-- The number of tokens before it. -/
  position : Nat
  offset : Nat
  line : Nat
  column : Nat

/-- How far a text has been taken apart. -/
structure Layout where
  cursor : Cursor
  /-- The tokens so far, the last one first. -/
  reversed : List Token
  /-- The column of the innermost block collection, or -1. -/
  indent : Int
  /-- The columns of the blocks around it. -/
  outerIndents : List Int
  /-- Where a key may have begun at the present depth of brackets. -/
  key : Option PossibleKey
  /-- The same for the brackets around. -/
  outerKeys : List (Option PossibleKey)
  /-- Whether a key may begin here. -/
  keyAllowed : Bool

namespace Layout

/-- Before the first token. -/
def start (text : List Char) : Layout :=
  { cursor := Cursor.start text
    reversed := []
    indent := -1
    outerIndents := []
    key := none
    outerKeys := []
    keyAllowed := true }

/-- Whether the place is within brackets. -/
def inFlow (l : Layout) : Bool := !l.outerKeys.isEmpty

/-- Adds a token. -/
def add (l : Layout) (t : Token) : Layout := { l with reversed := t :: l.reversed }

/-- Puts a token behind the first `position` ones. -/
def addAt (l : Layout) (position : Nat) (t : Token) : Layout :=
  let later := l.reversed.length - position
  { l with reversed := l.reversed.take later ++ t :: l.reversed.drop later }

/-! ## Keys -/

/-- Whether a key that begins at `k` can no longer be followed by its colon. -/
def isStale (c : Cursor) (k : PossibleKey) : Bool :=
  decide (k.line < c.line) || decide (k.offset + 1024 < c.offset)

/-- Forgets a key that can no longer be one. -/
def dropStale (c : Cursor) : Option PossibleKey → Option (Option PossibleKey)
  | none => some none
  | some k =>
    if isStale c k then
      if k.required then none else some none
    else some (some k)

/-- Forgets all keys that can no longer be one. -/
def dropStaleKeys (l : Layout) : Option Layout := do
  let key ← dropStale l.cursor l.key
  let outerKeys ← l.outerKeys.mapM (dropStale l.cursor)
  some { l with key := key, outerKeys := outerKeys }

/-- Forgets the key of the present depth, unless something has to be a key there. -/
def dropKey (l : Layout) : Option Layout :=
  match l.key with
  | some k => if k.required then none else some { l with key := none }
  | none => some l

/-- Notes that a key may begin here. -/
def noteKey (l : Layout) : Option Layout :=
  if !l.keyAllowed then some l
  else do
    let l ← l.dropKey
    let c := l.cursor
    some { l with key := some {
      required := !l.inFlow && l.indent == c.column
      position := l.reversed.length
      offset := c.offset
      line := c.line
      column := c.column } }

/-! ## Blocks -/

/-- Begins a block at a column that is deeper than the block around it; its token
goes behind the first `position` ones, or to the end. -/
def openBlock (l : Layout) (column : Nat) (position : Option Nat) (t : Token) : Layout :=
  if l.inFlow || !decide (l.indent < column) then l
  else
    let l := match position with
      | some n => l.addAt n t
      | none => l.add t
    { l with indent := column, outerIndents := l.indent :: l.outerIndents }

/-- Ends the blocks that are deeper than a column. -/
def closeBlocks (l : Layout) (column : Int) : Layout :=
  if l.inFlow then l else go l.outerIndents.length l
where
  /-- Ends at most `n` blocks. -/
  go : Nat → Layout → Layout
    | 0, l => l
    | n + 1, l =>
      if l.indent ≤ column then l
      else match l.outerIndents with
        | [] => l
        | i :: outer => go n { l.add .blockEnd with indent := i, outerIndents := outer }

/-! ## Single tokens -/

/-- To the next character that is no white space or comment, past a byte order mark at
the beginning of a line.  Outside of brackets a tab
may not stand where a key may begin, and a key may begin on every new line. -/
def skipSpace : Nat → Layout → Layout
  | 0, l => l
  | fuel + 1, l =>
    let isSpace (x : Char) : Bool := x == ' ' || ((l.inFlow || !l.keyAllowed) && x == '\t')
    let c := (l.cursor.skipByteOrderMark.skip isSpace).skipComment
    if c.atBreak then
      skipSpace fuel { l with cursor := c.breakLine.2, keyAllowed := l.keyAllowed || !l.inFlow }
    else { l with cursor := c }

/-- The end of the text or a directive or marker between documents ends all blocks. -/
def leaveDocument (l : Layout) : Option Layout := do
  let l ← (l.closeBlocks (-1)).dropKey
  some { l with keyAllowed := false }

/-- A sign of `width` characters. -/
def sign (l : Layout) (t : Token) (width : Nat) : Layout :=
  { l.add t with cursor := l.cursor.advance width }

/-- An opening bracket: a key may be the whole collection, or begin in it. -/
def openFlow (l : Layout) (t : Token) : Option Layout := do
  let l ← l.noteKey
  some { l.sign t 1 with key := none, outerKeys := l.key :: l.outerKeys, keyAllowed := true }

/-- A closing bracket. -/
def closeFlow (l : Layout) (t : Token) : Option Layout := do
  let l ← l.dropKey
  let l := { l.sign t 1 with keyAllowed := false }
  match l.outerKeys with
  | [] => some l
  | k :: outer => some { l with key := k, outerKeys := outer }

/-- A comma within brackets. -/
def flowEntry (l : Layout) : Option Layout := do
  let l ← l.dropKey
  some { l.sign .flowEntry 1 with keyAllowed := true }

/-- The dash of a sequence item. -/
def blockEntry (l : Layout) : Option Layout := do
  if !l.inFlow && !l.keyAllowed then none
  else
    let l ← (l.openBlock l.cursor.column none .blockSequenceStart).dropKey
    some { l.sign .blockEntry 1 with keyAllowed := true }

/-- The question mark of a key. -/
def explicitKey (l : Layout) : Option Layout := do
  if !l.inFlow && !l.keyAllowed then none
  else
    let l ← (l.openBlock l.cursor.column none .blockMappingStart).dropKey
    some { l.sign .key 1 with keyAllowed := !l.inFlow }

/-- The colon of a value: if a key may have begun, it did. -/
def value (l : Layout) : Option Layout :=
  match l.key with
  | some k =>
    let l := (l.addAt k.position .key).openBlock k.column (some k.position) .blockMappingStart
    some { l.sign .value 1 with key := none, keyAllowed := false }
  | none =>
    if !l.inFlow && !l.keyAllowed then none
    else
      let l := l.openBlock l.cursor.column none .blockMappingStart
      some { l.sign .value 1 with keyAllowed := !l.inFlow }

/-- A token that may be a key, which may not begin within it. -/
def content (l : Layout) (read : Cursor → Option (Token × Cursor)) : Option Layout := do
  let l ← l.noteKey
  let (t, c) ← read l.cursor
  some { l.add t with cursor := c, keyAllowed := false }

/-- An anchor or an alias. -/
def named (l : Layout) (token : String → Token) : Option Layout :=
  l.content fun c => (Property.name (c.advance 1)).map fun p => (token p.1, p.2)

/-- A quoted scalar. -/
def quoted (l : Layout) (double : Bool) : Option Layout :=
  l.content fun c => (Scalar.quoted double c).map fun p =>
    (.scalar (if double then .doubleQuoted else .singleQuoted) (String.ofList p.1), p.2)

/-- A plain scalar; if the line breaks after it, a key may begin there. -/
def plain (l : Layout) : Option Layout := do
  let l ← l.noteKey
  let (text, c, broken) ← Scalar.plain l.inFlow l.indent l.cursor
  some { l.add (.scalar .plain (String.ofList text)) with cursor := c, keyAllowed := broken }

/-- A block of lines, which cannot be a key. -/
def block (l : Layout) (literal : Bool) : Option Layout := do
  let l ← l.dropKey
  let (text, c) ← Scalar.block literal l.indent l.cursor
  some { l.add (.scalar (if literal then .literal else .folded) (String.ofList text)) with
    cursor := c, keyAllowed := true }

/-! ## The next token -/

/-- The characters that a plain scalar does not begin with. -/
def signs : List Char :=
  ['-', '?', ':', ',', '[', ']', '\x7b', '\x7d', '#', '&', '*', '!', '|', '>', '\'', '"', '%', '@',
    Char.ofNat 0x60]

/-- Whether a plain scalar begins with `x`, which `rest` follows. -/
def beginsPlain (inFlow : Bool) (x : Char) (rest : List Char) : Bool :=
  (!signs.contains x && !isBlank x) ||
    (x == '-' && !startsWithAny [' ', '\t'] rest) ||
    (!inFlow && (x == '?' || x == ':') && !isBlankOrEnd rest)

/-- The token at a character that is neither white space nor the beginning of a
marker or directive. -/
def nextAt (l : Layout) (x : Char) (rest : List Char) : Option Layout :=
  let detached := isBlankOrEnd rest
  if x == '[' then l.openFlow .flowSequenceStart
  else if x == '\x7b' then l.openFlow .flowMappingStart
  else if x == ']' then l.closeFlow .flowSequenceEnd
  else if x == '\x7d' then l.closeFlow .flowMappingEnd
  else if x == ',' then l.flowEntry
  else if x == '-' && detached then l.blockEntry
  else if x == '?' && (l.inFlow || detached) then l.explicitKey
  else if x == ':' && (l.inFlow || detached) then l.value
  else if x == '*' then l.named .alias
  else if x == '&' then l.named .anchor
  else if x == '!' then l.content (Property.tag l.inFlow)
  else if x == '|' && !l.inFlow then l.block true
  else if x == '>' && !l.inFlow then l.block false
  else if x == '\'' then l.quoted false
  else if x == '"' then l.quoted true
  else if beginsPlain l.inFlow x rest then l.plain
  else none

/-- Reads the next token. -/
def next (l : Layout) : Option Layout := do
  let l ← (l.skipSpace (l.cursor.rest.length + 1)).dropStaleKeys
  let l := l.closeBlocks l.cursor.column
  match l.cursor.rest with
  | [] => some ((← l.leaveDocument).add .textEnd)
  | x :: rest =>
    if l.cursor.column == 0 && x == '%' then
      let l ← l.leaveDocument
      let (t, c) ← Property.directive l.cursor
      some { l.add t with cursor := c }
    else if l.cursor.atMarker '-' then
      some ((← l.leaveDocument).sign .documentStart 3)
    else if l.cursor.atMarker '.' then
      some ((← l.leaveDocument).sign .documentEnd 3)
    else l.nextAt x rest

/-- Reads tokens up to the end of the text. -/
def all : Nat → Layout → Option (List Token)
  | 0, _ => none
  | fuel + 1, l => do
    let l ← l.next
    match l.reversed with
    | .textEnd :: _ => some l.reversed.reverse
    | _ => all fuel l

/-- The tokens of a text. -/
def tokens (text : List Char) : Option (List Token) :=
  if text.all isAllowed then all (text.length + 1) (start text) else none

end Layout

end Yaml

end BenchCampaign
