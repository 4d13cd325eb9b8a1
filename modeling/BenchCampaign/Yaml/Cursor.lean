/-!
# A place in a YAML text

YAML is read character by character, and what a character means depends on its
column.  A cursor is the text that is left to read together with the place that
it starts at.

* `Cursor.advance`: past some characters of a line.
* `Cursor.breakLine`: past a line end, which reads as one line feed.
-/

namespace BenchCampaign

namespace Yaml

/-! ## Kinds of characters -/

/-- Whether a character may stand in a YAML text at all. -/
def isAllowed (c : Char) : Bool :=
  let n := c.toNat
  n == 0x09 || n == 0x0A || n == 0x0D || (0x20 ≤ n && n ≤ 0x7E) || n == 0x85 ||
    (0xA0 ≤ n && n ≤ 0xFFFD) || 0x10000 ≤ n

/-- Whether a character ends a line. -/
def isBreak (c : Char) : Bool :=
  c == '\n' || c == '\r' || c == '\u0085' || c == '\u2028' || c == '\u2029'

/-- Whether a character is a blank within a line. -/
def isBlank (c : Char) : Bool := c == ' ' || c == '\t'

/-- Whether a character may stand in the name of an anchor or a handle. -/
def isWordChar (c : Char) : Bool := c.isAlphanum || c == '_' || c == '-'

/-- Whether a text is at its end or goes on with a blank or a line end. -/
def isBlankOrEnd : List Char → Bool
  | [] => true
  | c :: _ => isBlank c || isBreak c

/-- Whether a text goes on with one of some characters. -/
def startsWithAny (cs : List Char) : List Char → Bool
  | [] => false
  | c :: _ => cs.contains c

/-! ## Cursors -/

/-- The text that is left, and where in the whole text it starts. -/
structure Cursor where
  rest : List Char
  /-- The number of bytes before it. -/
  offset : Nat
  line : Nat
  column : Nat

namespace Cursor

/-- The beginning of a text. -/
def start (text : List Char) : Cursor := ⟨text, 0, 0, 0⟩

/-- The number of bytes of the next `n` characters. -/
def width (c : Cursor) (n : Nat) : Nat := (c.rest.take n).foldl (fun w x => w + x.utf8Size) 0

/-- Past `n` characters, none of which ends a line. -/
def advance (c : Cursor) (n : Nat) : Cursor :=
  { c with rest := c.rest.drop n, offset := c.offset + c.width n, column := c.column + n }

/-- Past `n` characters that end one line, which go on as `rest`. -/
def newLine (c : Cursor) (n : Nat) (rest : List Char) : Cursor :=
  { rest := rest, offset := c.offset + c.width n, line := c.line + 1, column := 0 }

/-- What a line end reads as, and the place after it. -/
def breakLine (c : Cursor) : List Char × Cursor :=
  match c.rest with
  | '\r' :: '\n' :: rest => (['\n'], c.newLine 2 rest)
  | b :: rest =>
    if b == '\u2028' || b == '\u2029' then ([b], c.newLine 1 rest)
    else if isBreak b then (['\n'], c.newLine 1 rest)
    else ([], c)
  | [] => ([], c)

/-- The characters that `p` holds of, up to the first that it does not hold of. -/
def taken (c : Cursor) (p : Char → Bool) : List Char := c.rest.takeWhile p

/-- Past the characters that `p` holds of. -/
def skip (c : Cursor) (p : Char → Bool) : Cursor := c.advance (c.taken p).length

/-- Whether the next character is `x`. -/
def sees (c : Cursor) (x : Char) : Bool := c.rest.head? == some x

/-- Whether the text is at its end. -/
def atEnd (c : Cursor) : Bool := c.rest.isEmpty

/-- Whether the text goes on with a line end. -/
def atBreak (c : Cursor) : Bool := startsWithAny ['\n', '\r', '\u0085', '\u2028', '\u2029'] c.rest

/-- Whether the text goes on with a blank. -/
def atBlank (c : Cursor) : Bool := startsWithAny [' ', '\t'] c.rest

/-- Whether a line begins here with three times `x` and nothing right after them. -/
def atMarker (c : Cursor) (x : Char) : Bool :=
  c.column == 0 && match c.rest with
    | a :: b :: d :: rest => a == x && b == x && d == x && isBlankOrEnd rest
    | _ => false

/-- Whether a line begins here with a document marker. -/
def atDocumentMarker (c : Cursor) : Bool := c.atMarker '-' || c.atMarker '.'

/-- Past a byte order mark that begins a line. -/
def skipByteOrderMark (c : Cursor) : Cursor :=
  if c.column == 0 && c.sees '\ufeff' then c.advance 1 else c

/-- Past a comment, if there is one. -/
def skipComment (c : Cursor) : Cursor :=
  if c.sees '#' then c.skip (fun x => !isBreak x) else c

/-- To the end of a line on which nothing but a comment is left. -/
def finishLine (c : Cursor) : Option Cursor :=
  let c := (c.skip isBlank).skipComment
  if c.atEnd || c.atBreak then some c.breakLine.2 else none

end Cursor

end Yaml

end BenchCampaign
