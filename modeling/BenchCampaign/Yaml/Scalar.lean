import BenchCampaign.Json.Reader
import BenchCampaign.Yaml.Cursor

/-!
# Scalars as they are written

A scalar is written plain, quoted, or as a block of lines.  Within a plain or a
quoted scalar a line end folds to a blank, and every further one stays; a block
keeps its line ends, or folds those between two lines that are not indented.

* `Scalar.plain`, `Scalar.quoted`, `Scalar.block`: the text of a scalar and the
  place after it.
-/

namespace BenchCampaign

namespace Yaml

namespace Scalar

/-! ## Gaps between words -/

/-- White space between two words. -/
structure Gap where
  /-- Blanks on the line of the first word. -/
  blanks : List Char := []
  /-- Whether the line was broken. -/
  broken : Bool := false
  /-- What the first line end reads as. -/
  first : List Char := []
  /-- What the line ends after it read as. -/
  more : List Char := []

/-- What a gap reads as. -/
def Gap.text (g : Gap) : List Char :=
  if !g.broken then g.blanks
  else if g.first == ['\n'] then
    if g.more.isEmpty then [' '] else g.more
  else g.first ++ g.more

/-- Reads on in a gap.  A tab may not stand in front of column `indent` of a
further line. -/
def gap (indent : Int) : Nat → Cursor → Gap → Option (Gap × Cursor)
  | 0, c, g => some (g, c)
  | fuel + 1, c, g =>
    if c.atBlank then
      if g.broken then
        if decide ((c.column : Int) < indent) && c.sees '\t' then none
        else gap indent fuel (c.advance 1) g
      else gap indent fuel (c.advance 1) { g with blanks := g.blanks ++ c.rest.take 1 }
    else if c.atBreak then
      let (b, c) := c.breakLine
      if g.broken then gap indent fuel c { g with more := g.more ++ b }
      else gap indent fuel c { g with blanks := [], broken := true, first := b }
    else some (g, c)

/-! ## Plain scalars -/

/-- The characters of a plain scalar up to white space or its end.  Within brackets a
colon may not stand right before another sign of structure. -/
def plainWord (inFlow : Bool) : List Char → Option (List Char)
  | [] => some []
  | c :: rest =>
    if isBlank c || isBreak c then some []
    else if inFlow && c == ':' && startsWithAny [',', '?', '[', ']', '\x7b', '\x7d'] rest then none
    else if c == ':' && isBlankOrEnd rest then some []
    else if inFlow && [',', '[', ']', '\x7b', '\x7d'].contains c then some []
    else (plainWord inFlow rest).map (c :: ·)

/-- The text of a plain scalar, the place after it, and whether the line was broken
after its last word. -/
def plainFrom (inFlow : Bool) (indent : Int) :
    Nat → Cursor → Gap → List Char → Option (List Char × Cursor × Bool)
  | 0, c, g, text => some (text, c, g.broken)
  | fuel + 1, c, g, text =>
    if c.atDocumentMarker || c.sees '#' then some (text, c, g.broken)
    else do
      let word ← plainWord inFlow c.rest
      let text' := if word.isEmpty then text else text ++ g.text ++ word
      let broken := g.broken && word.isEmpty
      let c := c.advance word.length
      if !c.atBlank && !c.atBreak then some (text', c, broken)
      else
        let (g, c) ← gap indent c.rest.length c { broken := broken }
        if !inFlow && decide ((c.column : Int) < indent) then some (text', c, g.broken)
        else plainFrom inFlow indent fuel c g text'

/-- Reads a plain scalar in a block that is indented by `indent`. -/
def plain (inFlow : Bool) (indent : Int) (c : Cursor) : Option (List Char × Cursor × Bool) :=
  plainFrom inFlow (indent + 1) (c.rest.length + 1) c {} []

/-! ## Quoted scalars -/

/-- The character that a one-letter escape stands for. -/
def unescape? (c : Char) : Option Char :=
  if c = '0' then some '\x00'
  else if c = 'a' then some '\x07'
  else if c = 'b' then some '\x08'
  else if c = 't' || c = '\t' then some '\t'
  else if c = 'n' then some '\n'
  else if c = 'v' then some '\x0b'
  else if c = 'f' then some '\x0c'
  else if c = 'r' then some '\r'
  else if c = 'e' then some '\x1b'
  else if c = ' ' then some ' '
  else if c = '"' then some '"'
  else if c = '/' then some '/'
  else if c = '\\' then some '\\'
  else if c = 'N' then some '\u0085'
  else if c = '_' then some '\u00a0'
  else if c = 'L' then some '\u2028'
  else if c = 'P' then some '\u2029'
  else none

/-- The number of digits that follow the letter of an escape. -/
def escapeWidth? (c : Char) : Option Nat :=
  if c = 'x' then some 2
  else if c = 'u' then some 4
  else if c = 'U' then some 8
  else none

/-- The number that hexadecimal digits spell. -/
def hexNumber? (cs : List Char) : Option Nat :=
  cs.foldl (fun n c => n.bind fun n => (Json.hexDigit? c).map fun d => n * 16 + d) (some 0)

/-- The character of a code point that is one. -/
def codePoint? (n : Nat) : Option Char :=
  if (0xD800 ≤ n && n ≤ 0xDFFF) || 0x10FFFF < n then none else some (Char.ofNat n)

/-- The character of an escape, given what follows the backslash, and its length. -/
def escape? : List Char → Option (Char × Nat)
  | [] => none
  | c :: rest =>
    match escapeWidth? c with
    | none => (unescape? c).map fun d => (d, 2)
    | some width =>
      if rest.length < width then none
      else ((hexNumber? (rest.take width)).bind codePoint?).map fun d => (d, 2 + width)

/-- The characters of a quoted scalar up to white space or the quotation mark, the
place after them, and whether an escaped line end stands there. -/
def quotedWord (double : Bool) : Nat → Cursor → Option (List Char × Cursor × Bool)
  | 0, c => some ([], c, false)
  | fuel + 1, c =>
    if isBlankOrEnd c.rest then some ([], c, false)
    else match c.rest with
      | '\'' :: '\'' :: _ =>
        if double then more fuel c 1 '\'' else more fuel c 2 '\''
      | '\'' :: _ => if double then more fuel c 1 '\'' else some ([], c, false)
      | '"' :: _ => if double then some ([], c, false) else more fuel c 1 '"'
      | '\\' :: rest =>
        if !double then more fuel c 1 '\\'
        else if (Cursor.mk rest 0 0 0).atBreak then some ([], (c.advance 1).breakLine.2, true)
        else do
          let (d, width) ← escape? rest
          more fuel c width d
      | x :: _ => more fuel c 1 x
      | [] => some ([], c, false)
where
  /-- Takes a character that is written with `width` characters. -/
  more (fuel : Nat) (c : Cursor) (width : Nat) (x : Char) : Option (List Char × Cursor × Bool) :=
    (quotedWord double fuel (c.advance width)).map fun p => (x :: p.1, p.2)

/-- The rest of a quoted scalar, and the place after the closing quotation mark. -/
def quotedFrom (double : Bool) : Nat → Cursor → List Char → Option (List Char × Cursor)
  | 0, _, _ => none
  | fuel + 1, c, text =>
    if c.atDocumentMarker || c.atEnd then none
    else do
      let (word, c, escaped) ← quotedWord double c.rest.length c
      let text := text ++ word
      if c.sees (if double then '"' else '\'') then some (text, c.advance 1)
      else
        let (g, c) ← gap (-1) c.rest.length c { broken := escaped }
        quotedFrom double fuel c (text ++ g.text)

/-- Reads a quoted scalar from its opening quotation mark on. -/
def quoted (double : Bool) (c : Cursor) : Option (List Char × Cursor) :=
  quotedFrom double (c.rest.length + 1) (c.advance 1) []

/-! ## Blocks of lines -/

/-- What becomes of the line ends at the end of a block. -/
inductive Chomping where
  | strip
  | clip
  | keep
deriving DecidableEq

/-- The chomping that a sign stands for. -/
def chomping? (c : Char) : Option Chomping :=
  if c == '+' then some .keep else if c == '-' then some .strip else none

/-- The header of a block after its first sign: the chomping, the indentation that it
gives, or zero, and the place after it. -/
def blockHeader (c : Cursor) : Option (Chomping × Nat × Cursor) :=
  let sign (c : Cursor) : Option Chomping := c.rest.head?.bind chomping?
  let digit (c : Cursor) : Option Nat :=
    c.rest.head?.bind fun d => if d.isDigit then some (d.toNat - '0'.toNat) else none
  match sign c with
  | some chomping =>
    let c := c.advance 1
    match digit c with
    | some 0 => none
    | some n => some (chomping, n, c.advance 1)
    | none => some (chomping, 0, c)
  | none =>
    match digit c with
    | some 0 => none
    | some n =>
      let c := c.advance 1
      match sign c with
      | some chomping => some (chomping, n, c.advance 1)
      | none => some (.clip, n, c)
    | none => some (.clip, 0, c)

/-- Reads indentation and empty lines: what the line ends read as, the greatest column
seen, and the place.  An indentation of zero is not known yet. -/
def blockBreaks (indent : Nat) : Nat → Cursor → Nat → Option (List Char × Nat × Cursor)
  | 0, c, deepest => some ([], deepest, c)
  | fuel + 1, c, deepest =>
    let spaces := (c.taken (· == ' ')).length
    let c := c.advance (if indent = 0 then spaces else min spaces (indent - c.column))
    let deepest := max deepest c.column
    if (indent = 0 || c.column < indent) && c.sees '\t' then none
    else if !c.atBreak then some ([], deepest, c)
    else
      let (b, c) := c.breakLine
      (blockBreaks indent fuel c deepest).map fun p => (b ++ p.1, p.2)

/-- The lines of a block from a line's first character on: the text without the last
line ends, the end of the last line, and the line ends after it. -/
def blockLines (literal : Bool) (indent : Nat) :
    Nat → Cursor → List Char → List Char → List Char → Bool →
      Option (List Char × List Char × List Char × Cursor)
  | 0, c, text, first, more, _ => some (text, first, more, c)
  | fuel + 1, c, text, first, more, indented =>
    if c.column != indent || c.atEnd then some (text, first, more, c)
    else do
      let blank := c.atBlank
      let joint :=
        if !literal && first == ['\n'] && !indented && !blank then
          if more.isEmpty then [' '] else []
        else first
      let line := c.taken fun x => !isBreak x
      let (b, c) := (c.advance line.length).breakLine
      let (breaks, _, c) ← blockBreaks indent (c.rest.length + 1) c 0
      blockLines literal indent fuel c (text ++ joint ++ more ++ line) b breaks blank

/-- Reads a block of lines from its first sign on; `parent` is the indentation of the
block around it, or less than zero. -/
def block (literal : Bool) (parent : Int) (c : Cursor) : Option (List Char × Cursor) := do
  let (chomping, increment, c) ← blockHeader (c.advance 1)
  let c ← c.finishLine
  let given : Nat := if increment = 0 then 0 else (max parent 0).toNat + increment
  let (breaks, deepest, c) ← blockBreaks given (c.rest.length + 1) c 0
  let indent : Nat := if given = 0 then max (max deepest (parent + 1).toNat) 1 else given
  let (text, first, more, c) ← blockLines literal indent (c.rest.length + 1) c [] [] breaks false
  let ending := match chomping with
    | .strip => []
    | .clip => first
    | .keep => first ++ more
  some (text ++ ending, c)

end Scalar

end Yaml

end BenchCampaign
