import BenchCampaign.Shell.Pattern

/-!
# Regular expressions

A regular expression stands for the texts that it accepts.  Of the places where
it accepts part of a line, the leftmost one counts, and there the longest part;
groups remember what they accepted.

* `Regex`: regular expressions.
* `Regex.ends`: all ends of what an expression accepts from a place on.
* `Regex.find?`: the part of a line that an expression accepts.
-/

namespace BenchCampaign

namespace Shell

/-- A place between characters. -/
inductive Anchor where
  | lineStart
  | lineEnd
  | wordStart
  | wordEnd
  | wordEdge
  | notWordEdge
  | textStart
  | textEnd
deriving DecidableEq, Repr

/-- A regular expression. -/
inductive Regex where
  | empty
  | char (c : Char)
  | anyChar
  | oneOf (negated : Bool) (members : List PatternMember)
  | anchor (a : Anchor)
  | group (index : Nat) (r : Regex)
  /-- What a group accepted, once more. -/
  | again (index : Nat)
  | seq (a b : Regex)
  | alt (a b : Regex)
  | repeated (least : Nat) (most : Option Nat) (r : Regex)
deriving Repr

namespace Regex

/-- A place in a line, and what groups have accepted. -/
structure Place where
  position : Nat
  groups : List (Nat × Nat × Nat)
deriving DecidableEq, Repr

/-- How a line is looked at. -/
structure Subject where
  chars : Array Char
  ignoresCase : Bool
  /-- Whether a line feed ends a line within the text. -/
  hasLines : Bool

/-! ## Characters -/

/-- Whether a character belongs to a word. -/
def isWordPart (c : Char) : Bool := c.isAlphanum || c = '_'

/-- A character, or its counterpart among small and capital letters. -/
def otherCase (c : Char) : Char := if c.isUpper then c.toLower else c.toUpper

/-- Whether two characters are the same. -/
def isSame (s : Subject) (a b : Char) : Bool := a = b || (s.ignoresCase && a.toLower = b.toLower)

/-- Whether a character is one of some members. -/
def isMember (s : Subject) (negated : Bool) (members : List PatternMember) (c : Char) : Bool :=
  (members.any fun m => m.holds c || (s.ignoresCase && m.holds (otherCase c))) != negated

/-- Whether an anchor holds at a place. -/
def holdsAt (s : Subject) (position : Nat) : Anchor → Bool :=
  let before := if position = 0 then none else s.chars[position - 1]?
  let after := s.chars[position]?
  let isInside := (before.map isWordPart).getD false
  let isAhead := (after.map isWordPart).getD false
  fun
  | .lineStart => before.isNone || (s.hasLines && before = some '\n')
  | .lineEnd => after.isNone || (s.hasLines && after = some '\n')
  | .textStart => before.isNone
  | .textEnd => after.isNone
  | .wordStart => !isInside && isAhead
  | .wordEnd => isInside && !isAhead
  | .wordEdge => isInside != isAhead
  | .notWordEdge => isInside == isAhead

/-- Whether an expression stands for single characters, and for this one. -/
def single? (s : Subject) : Regex → Option (Char → Bool)
  | char c => some (isSame s c)
  | anyChar => some fun _ => true
  | oneOf negated members => some (isMember s negated members)
  | _ => none

/-! ## Matching -/

/-- The characters from a place on that pass a test, at most some. -/
def run (s : Subject) (p : Char → Bool) : (most : Nat) → (position : Nat) → Nat
  | 0, _ => 0
  | most + 1, position =>
    match s.chars[position]? with
    | some c => if p c then run s p most (position + 1) + 1 else 0
    | none => 0

/-- Places without those that only repeat an earlier one. -/
def distinct (tellsGroups : Bool) (ps : List Place) : List Place :=
  ps.foldl (fun (kept : List Place) p =>
    if kept.any fun q => q.position = p.position && (!tellsGroups || q.groups = p.groups) then kept
    else p :: kept) [] |>.reverse

/-- The places after an expression is repeated, the most often first. -/
def iterate (step : Place → List Place) (unify : List Place → List Place) :
    (fuel : Nat) → (least : Nat) → (most : Option Nat) → Place → List Place
  | 0, _, _, p => [p]
  | fuel + 1, least, most, p =>
    if most = some 0 then [p]
    else
      let further := (step p).flatMap fun q =>
        if q.position = p.position && least = 0 then []
        else iterate step unify fuel (least - 1) (most.map (· - 1)) q
      unify (further ++ if least = 0 then [p] else [])

/-- What a group accepted. -/
def groupText (s : Subject) (p : Place) (index : Nat) : Option (List Char) :=
  (p.groups.find? fun g => g.1 = index).map fun g => (s.chars.extract g.2.1 g.2.2).toList

/-- All places where what an expression accepts from a place on can end, the preferred ones
first. -/
def ends (s : Subject) (tellsGroups : Bool) : Regex → Place → List Place
  | empty, p => [p]
  | char c, p =>
    match s.chars[p.position]? with
    | some d => if isSame s c d then [{ p with position := p.position + 1 }] else []
    | none => []
  | anyChar, p =>
    if p.position < s.chars.size then [{ p with position := p.position + 1 }] else []
  | oneOf negated members, p =>
    match s.chars[p.position]? with
    | some d => if isMember s negated members d then [{ p with position := p.position + 1 }] else []
    | none => []
  | anchor a, p => if holdsAt s p.position a then [p] else []
  | group index r, p =>
    (ends s tellsGroups r p).map fun q =>
      { q with
        groups := (index, p.position, q.position) :: q.groups.filter fun g => g.1 ≠ index }
  | again index, p =>
    match groupText s p index with
    | none => []
    | some cs =>
      let here := (s.chars.extract p.position (p.position + cs.length)).toList
      if here.length = cs.length && (here.zip cs).all fun e => isSame s e.1 e.2 then
        [{ p with position := p.position + cs.length }]
      else []
  | seq a b, p => distinct tellsGroups ((ends s tellsGroups a p).flatMap (ends s tellsGroups b))
  | alt a b, p => distinct tellsGroups (ends s tellsGroups a p ++ ends s tellsGroups b p)
  | repeated least most r, p =>
    match single? s r with
    | some test =>
      let left := s.chars.size - p.position
      let count := run s test (most.elim left (min left)) p.position
      ((List.range (count + 1)).reverse.filter (least ≤ ·)).map fun n =>
        { p with position := p.position + n }
    | none =>
      iterate (ends s tellsGroups r) (distinct tellsGroups) (s.chars.size + least + 1) least most p

/-- Whether what groups accept matters. -/
def tellsGroups : Regex → Bool
  | again _ => true
  | group _ r => r.tellsGroups
  | seq a b => a.tellsGroups || b.tellsGroups
  | alt a b => a.tellsGroups || b.tellsGroups
  | repeated _ _ r => r.tellsGroups
  | _ => false

/-! ## Finding -/

/-- A part of a line that an expression accepts. -/
structure Match where
  start : Nat
  stop : Nat
  groups : List (Nat × Nat × Nat)
deriving DecidableEq, Repr

/-- The longest part that an expression accepts at a place, and that passes a test. -/
def findAt? (r : Regex) (s : Subject) (passes : Nat → Nat → Bool) (start : Nat) : Option Match :=
  let found := (r.ends s r.tellsGroups ⟨start, []⟩).filter fun p => passes start p.position
  found.foldl (fun (best : Option Match) p =>
    match best with
    | some m => if m.stop < p.position then some ⟨start, p.position, p.groups⟩ else some m
    | none => some ⟨start, p.position, p.groups⟩) none

/-- The leftmost of the longest parts from a place on that an expression accepts and that
pass a test. -/
def findWith? (r : Regex) (s : Subject) (passes : Nat → Nat → Bool) (start : Nat) : Option Match :=
  (List.range (s.chars.size + 1 - start)).findSome? fun k => r.findAt? s passes (start + k)

/-- The leftmost of the longest parts from a place on that an expression accepts. -/
def find? (r : Regex) (s : Subject) (start : Nat) : Option Match :=
  r.findWith? s (fun _ _ => true) start

/-- The text of a group of a match; the group zero is all of it. -/
def Match.text (m : Match) (s : Subject) (index : Nat) : List Char :=
  if index = 0 then (s.chars.extract m.start m.stop).toList
  else
    match m.groups.find? fun g => g.1 = index with
    | some g => (s.chars.extract g.2.1 g.2.2).toList
    | none => []

end Regex

end Shell

end BenchCampaign
