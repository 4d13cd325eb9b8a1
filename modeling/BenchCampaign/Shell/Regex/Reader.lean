import BenchCampaign.Shell.Regex

/-!
# Reading regular expressions

Regular expressions are written in two ways.  In basic ones the signs for groups,
choices and counts stand behind backslashes, in extended ones they stand alone.

* `Regex.read`: the regular expression of a text.
* `RegexFault.text`: why a text is none.
-/

namespace BenchCampaign

namespace Shell

/-- Why a text is no regular expression. -/
inductive RegexFault where
  | openBracket
  | openGroup
  | closedGroup
  | openCount
  | badCount
  | badReference
  | badRange
  | badClass
  | bareClass
  | openBackslash
  | nothingToRepeat
  | tooBig
deriving DecidableEq, Repr

/-- A fault in words. -/
def RegexFault.text : RegexFault → String
  | openBracket => "Unmatched [, [^, [:, [., or [="
  | openGroup => "Unmatched ( or \\("
  | closedGroup => "Unmatched ) or \\)"
  | openCount => "Unmatched \\\x7b"
  | badCount => "Invalid content of \\\x7b\\\x7d"
  | badReference => "Invalid back reference"
  | badRange => "Invalid range end"
  | badClass => "Invalid character class name"
  | bareClass => "character class syntax is [[:space:]], not [:space:]"
  | openBackslash => "Trailing backslash"
  | nothingToRepeat => "Invalid preceding regular expression"
  | tooBig => "Regular expression too big"

namespace Regex

/-- How regular expressions are written. -/
structure Dialect where
  isExtended : Bool
  /-- Whether letters behind backslashes stand for control characters. -/
  hasControls : Bool
  /-- Whether signs that mean nothing where they stand are refused, and not taken as they
  are. -/
  isStrict : Bool
deriving DecidableEq, Repr

/-- What is left of a text to be read, and how many groups were opened and closed. -/
structure Cursor where
  rest : Octets
  opened : Nat
  closed : List Nat

/-- Reads a part of a regular expression. -/
abbrev Parsing := StateT Cursor (Except RegexFault)

namespace Parsing

/-- Refuses a text. -/
def refuse {α : Type} (fault : RegexFault) : Parsing α := fun _ => .error fault

/-- What is left to be read. -/
def rest : Parsing Octets := fun c => .ok (c.rest, c)

/-- Goes on behind some text. -/
def goTo (text : Octets) : Parsing Unit := fun c => .ok ((), { c with rest := text })

/-- Opens a group, and tells its number. -/
def openGroup : Parsing Nat := fun c => .ok (c.opened + 1, { c with opened := c.opened + 1 })

/-- Closes a group. -/
def closeGroup (index : Nat) : Parsing Unit := fun c =>
  .ok ((), { c with closed := index :: c.closed })

end Parsing

open Parsing

/-! ## Signs -/

/-- What stands behind a sign that a text begins with: alone in extended expressions, behind
a backslash in basic ones. -/
def afterSign? (d : Dialect) (sign : Char) : Octets → Option Octets
  | '\\' :: c :: rest => if !d.isExtended && c = sign then some rest else none
  | c :: rest => if d.isExtended && c = sign then some rest else none
  | [] => none

/-- The control character of a letter. -/
def control? : Char → Option Char
  | 'a' => some '\x07'
  | 'f' => some '\x0c'
  | 'n' => some '\n'
  | 'r' => some '\r'
  | 't' => some '\t'
  | 'v' => some '\x0b'
  | _ => none

/-- What a letter behind a backslash stands for in any expression. -/
def classOrAnchor? : Char → Option Regex
  | 'w' => some (.oneOf false [.cls .alnum, .range '_' '_'])
  | 'W' => some (.oneOf true [.cls .alnum, .range '_' '_'])
  | 's' => some (.oneOf false [.cls .space])
  | 'S' => some (.oneOf true [.cls .space])
  | 'b' => some (.anchor .wordEdge)
  | 'B' => some (.anchor .notWordEdge)
  | '<' => some (.anchor .wordStart)
  | '>' => some (.anchor .wordEnd)
  | '\x60' => some (.anchor .textStart)
  | '\'' => some (.anchor .textEnd)
  | _ => none

/-! ## Sets -/

/-- One character of a set, and what follows. -/
def setCharacter? (d : Dialect) : Octets → Option (Char × Octets)
  | '[' :: '.' :: c :: '.' :: ']' :: rest => some (c, rest)
  | '[' :: '=' :: c :: '=' :: ']' :: rest => some (c, rest)
  | '\\' :: c :: rest =>
    match if d.hasControls then control? c else none with
    | some k => some (k, rest)
    | none => some ('\\', c :: rest)
  | c :: rest => some (c, rest)
  | [] => none

/-- The members of a set up to the bracket that ends it, and what follows; one that comes
first is a member. -/
def members (d : Dialect) : (fuel : Nat) → (isFirst : Bool) → Octets →
    Except RegexFault (List PatternMember × Octets)
  | 0, _, _ => .error .openBracket
  | fuel + 1, isFirst, text =>
    let goOn (m : PatternMember) (rest : Octets) :
        Except RegexFault (List PatternMember × Octets) := do
      let (ms, rest) ← members d fuel false rest
      return (m :: ms, rest)
    match isFirst, text with
    | false, ']' :: rest => .ok ([], rest)
    | _, '[' :: ':' :: rest =>
      match CharacterClass.named? rest with
      | some (k, rest) => goOn (.cls k) rest
      | none => .error (if rest.contains ']' then .badClass else .openBracket)
    | _, text =>
      match setCharacter? d text with
      | none => .error .openBracket
      | some (a, '-' :: rest) =>
        match rest with
        | ']' :: _ => goOn (.range a a) ('-' :: rest)
        | _ =>
          match setCharacter? d rest with
          | none => .error .openBracket
          | some (b, rest) => if b < a then .error .badRange else goOn (.range a b) rest
      | some (a, rest) => goOn (.range a a) rest

/-- The set behind an opening bracket, and what follows. -/
def set (d : Dialect) (text : Octets) : Except RegexFault (Regex × Octets) := do
  let (negated, text) := match text with
    | '^' :: rest => (true, rest)
    | rest => (false, rest)
  let (ms, rest) ← members d (text.length + 1) true text
  let isBare := match text.take (text.length - rest.length - 1) with
    | ':' :: name => name.length > 1 && name.getLast? = some ':'
    | _ => false
  if isBare && !negated then .error .bareClass else .ok (.oneOf negated ms, rest)

/-! ## Counts -/

/-- The least and the largest count in braces, and what follows. -/
def count? (d : Dialect) (text : Octets) : Option (Nat × Option Nat × Octets) :=
  let least := text.takeWhile Char.isDigit
  let text := text.drop least.length
  let (isRange, text) := match text with
    | ',' :: rest => (true, rest)
    | rest => (false, rest)
  let most := if isRange then text.takeWhile Char.isDigit else []
  let text := text.drop most.length
  match afterSign? d '\x7d' text with
  | none => none
  | some rest =>
    if least.isEmpty && !isRange then none
    else
      let low := (Octets.natural? least).getD 0
      some (low, if !isRange then some low else Octets.natural? most, rest)

/-- The largest count. -/
def maxCount : Nat := 32767

/-- An expression with the counts that stand behind it; a strict basic one has one count at
most. -/
def repeats (d : Dialect) : (fuel : Nat) → (isCounted : Bool) → Regex → Parsing Regex
  | 0, _, r => return r
  | fuel + 1, isCounted, r => do
    let text ← rest
    let again (least : Nat) (most : Option Nat) (text : Octets) : Parsing Regex := do
      if isCounted && d.isStrict && !d.isExtended then refuse .nothingToRepeat
      goTo text
      repeats d fuel true (.repeated least most r)
    match text with
    | '*' :: text => again 0 none text
    | text =>
      match afterSign? d '+' text, afterSign? d '?' text, afterSign? d '\x7b' text with
      | some text, _, _ => again 1 none text
      | _, some text, _ => again 0 (some 1) text
      | _, _, some inside =>
        match count? d inside with
        | some (least, most, text) =>
          if most.any (· < least) then refuse .badCount
          else if maxCount < most.getD least then refuse .tooBig
          else again least most text
        | none =>
          if d.isExtended && !d.isStrict && (afterSign? d '\x7d' inside).isNone then return r
          else refuse (if (inside.dropWhile fun c => c.isDigit || c = ',').isEmpty then .openCount
            else .badCount)
      | _, _, _ => return r

/-! ## Expressions -/

/-- Whether a dollar sign in front of a text ends a line. -/
def endsLine (d : Dialect) (text : Octets) : Bool :=
  d.isExtended || text.isEmpty || (afterSign? d ')' text).isSome || (afterSign? d '|' text).isSome

/-- What stands behind a backslash. -/
def escaped (d : Dialect) (c : Char) : Parsing Regex := do
  match classOrAnchor? c with
  | some r => return r
  | none =>
    if c.isDigit && c ≠ '0' then
      let index := c.toNat - '0'.toNat
      if (← get).closed.contains index then return .again index else refuse .badReference
    else
      match if d.hasControls then control? c else none with
      | some k => return .char k
      | none => return .char c

/-- One part of an expression; `inner` reads what stands in a group. -/
def atom (d : Dialect) (inner : Parsing Regex) (isStart : Bool) : Parsing Regex := do
  let text ← rest
  match afterSign? d '(' text with
  | some text =>
    goTo text
    let index ← openGroup
    let r ← inner
    match afterSign? d ')' (← rest) with
    | none => refuse .openGroup
    | some text =>
      goTo text
      closeGroup index
      return .group index r
  | none =>
    match text with
    | [] => return .empty
    | '\\' :: c :: text =>
      goTo text
      escaped d c
    | ['\\'] => refuse .openBackslash
    | '[' :: text =>
      match set d text with
      | .ok (r, text) =>
        goTo text
        return r
      | .error fault => refuse fault
    | c :: text =>
      goTo text
      if c = '.' then return .anyChar
      else if c = '^' && (isStart || d.isExtended) then return .anchor .lineStart
      else if c = '$' && endsLine d text then return .anchor .lineEnd
      else return .char c

/-- Whether a text begins with a count that nothing stands in front of. -/
def isLoneCount (d : Dialect) : Octets → Bool
  | '\\' :: c :: _ => !d.isExtended && c = '\x7b' && d.isStrict
  | c :: _ => d.isExtended && (c = '*' || c = '+' || c = '?' || (c = '\x7b' && d.isStrict))
  | [] => false

/-- The parts of an expression up to a choice or the end of a group. -/
def branch (d : Dialect) (inner : Parsing Regex) (isInGroup : Bool) :
    (fuel : Nat) → (isStart : Bool) → Parsing Regex
  | 0, _ => return .empty
  | fuel + 1, isStart => do
    let text ← rest
    if text.isEmpty || (afterSign? d '|' text).isSome then return .empty
    else if (afterSign? d ')' text).isSome && isInGroup then return .empty
    else if (afterSign? d ')' text).isSome && (d.isStrict || !d.isExtended) then
      refuse .closedGroup
    else if isStart && isLoneCount d text then
      if d.isStrict then refuse .nothingToRepeat
      goTo (text.drop 1)
      branch d inner isInGroup fuel true
    else
      let a ← atom d inner isStart
      let isAnchor := match a with
        | .anchor .lineStart => !d.isExtended
        | _ => false
      let a ← if isAnchor then pure a else repeats d text.length false a
      let b ← branch d inner isInGroup fuel isAnchor
      return match b with
        | .empty => a
        | b => .seq a b

/-- Choices of expressions, to a depth of groups. -/
def choices (d : Dialect) : (depth : Nat) → (fuel : Nat) → (isInGroup : Bool) → Parsing Regex
  | 0, _, _ => refuse .openGroup
  | _ + 1, 0, _ => return .empty
  | depth + 1, fuel + 1, isInGroup => do
    let text ← rest
    let a ← branch d (choices d depth text.length true) isInGroup (text.length + 1) true
    match afterSign? d '|' (← rest) with
    | none => return a
    | some text =>
      goTo text
      return .alt a (← choices d (depth + 1) fuel isInGroup)

/-- The regular expression of a text. -/
def read (d : Dialect) (text : Octets) : Except RegexFault Regex :=
  ((choices d (text.length + 2) (text.length + 2) false).run ⟨text, 0, []⟩).map Prod.fst

end Regex

end Shell

end BenchCampaign
