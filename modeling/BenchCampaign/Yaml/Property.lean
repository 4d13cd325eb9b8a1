import BenchCampaign.Yaml.Scalar
import BenchCampaign.Yaml.Token

/-!
# Names, tags and directives

What may stand around the nodes of a document: the name of an anchor or an
alias, a tag in one of its three forms, and the directives before a document.

* `Property.name`, `Property.tag`, `Property.directive`.
-/

namespace BenchCampaign

namespace Yaml

namespace Property

/-! ## Names -/

/-- The name of an anchor or an alias, after its sign. -/
def name (c : Cursor) : Option (String × Cursor) :=
  let word := c.taken isWordChar
  let c := c.advance word.length
  if word.isEmpty then none
  else if isBlankOrEnd c.rest ||
      startsWithAny ['?', ':', ',', ']', '\x7d', '%', '@', (Char.ofNat 0x60)] c.rest then
    some (String.ofList word, c)
  else none

/-! ## Tags -/

/-- A handle: an exclamation mark, and maybe a word and another one. -/
def handle (c : Cursor) : Option (List Char × Cursor) :=
  if !c.sees '!' then none
  else
    let word := (c.advance 1).taken isWordChar
    let c := c.advance (1 + word.length)
    if c.sees '!' then some (['!'] ++ word ++ ['!'], c.advance 1)
    else some (['!'] ++ word, c)

/-- Whether a character may stand in a tag; signs of flow collections only where they
cannot be mistaken. -/
def isTagChar (verbatim : Bool) (c : Char) : Bool :=
  isWordChar c ||
    [';', '/', '?', ':', '@', '&', '=', '+', '$', '.', '%', '!', '~', '*', '\'', '(', ')'].contains c ||
    (verbatim && [',', '[', ']'].contains c)

/-- The byte that an escape in a tag stands for. -/
def escapedByte? : List Char → Option UInt8
  | '%' :: a :: b :: _ => (Scalar.hexNumber? [a, b]).map UInt8.ofNat
  | _ => none

/-- The number of bytes of a character, by its first byte. -/
def byteWidth? (b : UInt8) : Option Nat :=
  if b < 0x80 then some 1
  else if 0xC0 ≤ b && b < 0xE0 then some 2
  else if 0xE0 ≤ b && b < 0xF0 then some 3
  else if 0xF0 ≤ b && b < 0xF8 then some 4
  else none

/-- Reads `n` escaped bytes that continue a character. -/
def moreBytes : Nat → List Char → Option (List UInt8)
  | 0, _ => some []
  | n + 1, cs => do
    let b ← escapedByte? cs
    if 0x80 ≤ b && b < 0xC0 then (moreBytes n (cs.drop 3)).map (b :: ·) else none

/-- The escaped bytes of one character of a tag. -/
def escapedBytes? (cs : List Char) : Option (List UInt8) := do
  let b ← escapedByte? cs
  let width ← byteWidth? b
  (moreBytes (width - 1) (cs.drop 3)).map (b :: ·)

/-- The bytes of a tag's text. -/
def tagText (verbatim : Bool) : Nat → Cursor → Option (List UInt8 × Cursor)
  | 0, c => some ([], c)
  | fuel + 1, c =>
    match c.rest with
    | '%' :: _ => do
      let bytes ← escapedBytes? c.rest
      (tagText verbatim fuel (c.advance (3 * bytes.length))).map fun p => (bytes ++ p.1, p.2)
    | x :: _ =>
      if isTagChar verbatim x then
        (tagText verbatim fuel (c.advance 1)).map fun p => (Text.utf8 [x] ++ p.1, p.2)
      else some ([], c)
    | [] => some ([], c)

/-- A tag's text after a beginning, which counts towards its not being empty. -/
def tagUri (verbatim : Bool) (beginning : List Char) (c : Cursor) :
    Option (NodeTag × Cursor) := do
  let (bytes, c) ← tagText verbatim c.rest.length c
  if beginning.isEmpty && bytes.isEmpty then none
  else some (NodeTag.ofBytes (Text.utf8 (beginning.drop 1) ++ bytes), c)

/-- Whether a handle has a second exclamation mark. -/
def isNamedHandle (h : List Char) : Bool := 1 < h.length && h.getLast? == some '!'

/-- The handle and the suffix of a tag, from its exclamation mark on. -/
def tagParts (c : Cursor) : Option (List Char × NodeTag × Cursor) :=
  if startsWithAny ['<'] (c.rest.drop 1) then do
    let (uri, c) ← tagUri true [] (c.advance 2)
    if c.sees '>' then some ([], uri, c.advance 1) else none
  else do
    let (h, c) ← handle c
    if isNamedHandle h then
      let (suffix, c) ← tagUri false [] c
      some (h, suffix, c)
    else
      let (suffix, c) ← tagUri false h c
      if suffix.bytes.isEmpty then some ([], NodeTag.bare, c) else some (['!'], suffix, c)

/-- A tag, which has to end there. -/
def tag (inFlow : Bool) (c : Cursor) : Option (Token × Cursor) := do
  let (h, suffix, c) ← tagParts c
  if isBlankOrEnd c.rest || (inFlow && c.sees ',') then
    some (.tag (String.ofList h) suffix, c)
  else none

/-! ## Directives -/

/-- A number of at most nine digits. -/
def versionNumber (c : Cursor) : Option (Nat × Cursor) :=
  let ds := c.taken Char.isDigit
  if ds.isEmpty || 9 < ds.length then none
  else some (Decimal.ofDigits ds, c.advance ds.length)

/-- What follows the name of a version directive. -/
def versionDirective (c : Cursor) : Option (Token × Cursor) := do
  let (major, c) ← versionNumber (c.skip isBlank)
  if !c.sees '.' then none
  else
    let (minor, c) ← versionNumber (c.advance 1)
    some (.version major minor, c)

/-- What follows the name of a handle directive. -/
def handleDirective (c : Cursor) : Option (Token × Cursor) := do
  let (h, c) ← handle (c.skip isBlank)
  if h != ['!'] && !isNamedHandle h then none
  else if !c.atBlank then none
  else
    let (beginning, c) ← tagUri true [] (c.skip isBlank)
    if isBlankOrEnd c.rest then some (.handle (String.ofList h) beginning, c)
    else none

/-- A directive from its percent sign on, and the place on the next line. -/
def directive (c : Cursor) : Option (Token × Cursor) := do
  let c := c.advance 1
  let word := c.taken isWordChar
  let c := c.advance word.length
  if !isBlankOrEnd c.rest then none
  else
    let (t, c) ←
      if word == "YAML".toList then versionDirective c
      else if word == "TAG".toList then handleDirective c
      else none
    let c ← c.finishLine
    some (t, c)

end Property

end Yaml

end BenchCampaign
