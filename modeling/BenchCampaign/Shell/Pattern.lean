import BenchCampaign.Shell.CharacterClass
import BenchCampaign.Shell.Octets

/-!
# Patterns

A pattern stands for many texts: a star for any text, a question mark for any
character, a bracket for one character of a set.  A quoted character stands for
itself.

* `Pattern.ofField`: the pattern of a text of which some characters are quoted.
* `Pattern.accepts`: whether a text is one of those that a pattern stands for.
-/

namespace BenchCampaign

namespace Shell

/-- Text of which every character may be quoted. -/
abbrev Field := List (Char × Bool)

namespace Field

/-- The characters of a field. -/
def chars (f : Field) : Octets := f.map Prod.fst

/-- A text, all of it quoted or none. -/
def ofOctets (quoted : Bool) (cs : Octets) : Field := cs.map fun c => (c, quoted)

end Field

/-- A member of a set of characters. -/
inductive PatternMember where
  | range (first last : Char)
  | cls (k : CharacterClass)
deriving DecidableEq, Repr

/-- Whether a character is a member. -/
def PatternMember.holds (c : Char) : PatternMember → Bool
  | range first last => first ≤ c && c ≤ last
  | cls k => k.holds c

/-- A part of a pattern. -/
inductive PatternPart where
  | exactly (c : Char)
  | anyChar
  | anyText
  | oneOf (negated : Bool) (members : List PatternMember)
deriving DecidableEq, Repr

/-- What stands for some texts. -/
abbrev Pattern := List PatternPart

namespace Pattern

/-- A character of a set, of which a backslash may take the meaning, and what follows. -/
def member? : Field → Option (Char × Field)
  | [] => none
  | ('\\', false) :: (c, _) :: rest => some (c, rest)
  | (c, _) :: rest => some (c, rest)

/-- The class of characters that a set goes on with, and what follows. -/
def class? : Field → Option (CharacterClass × Field)
  | ('[', false) :: (':', false) :: rest =>
    let name : Field := rest.takeWhile fun c => !c.2 && c.1.isAlpha
    match CharacterClass.ofName? (String.ofList name.chars), rest.drop name.length with
    | some k, (':', false) :: (']', false) :: rest => some (k, rest)
    | _, _ => none
  | _ => none

/-- The members of a set up to the bracket that ends it, and what follows; one that comes
first is a member. -/
def members? : (fuel : Nat) → (isFirst : Bool) → Field → Option (List PatternMember × Field)
  | 0, _, _ => none
  | fuel + 1, isFirst, f =>
    match isFirst, f with
    | false, (']', false) :: rest => some ([], rest)
    | _, f =>
      match class? f with
      | some (k, rest) => (members? fuel false rest).map fun r => (.cls k :: r.1, r.2)
      | none =>
        match member? f with
        | none => none
        | some (a, ('-', false) :: rest) =>
          match rest with
          | (']', false) :: _ =>
            (members? fuel false (('-', true) :: rest)).map fun r => (.range a a :: r.1, r.2)
          | _ =>
            match member? rest with
            | none => none
            | some (b, rest) => (members? fuel false rest).map fun r => (.range a b :: r.1, r.2)
        | some (a, rest) => (members? fuel false rest).map fun r => (.range a a :: r.1, r.2)

/-- The set behind an opening bracket, and what follows. -/
def bracket? (f : Field) : Option (PatternPart × Field) :=
  match f with
  | ('!', false) :: rest =>
    (members? (rest.length + 1) true rest).map fun r => (.oneOf true r.1, r.2)
  | f => (members? (f.length + 1) true f).map fun r => (.oneOf false r.1, r.2)

/-- The pattern of a field. -/
def ofField : (fuel : Nat) → Field → Pattern
  | 0, _ => []
  | _, [] => []
  | fuel + 1, ('*', false) :: rest => .anyText :: ofField fuel rest
  | fuel + 1, ('?', false) :: rest => .anyChar :: ofField fuel rest
  | fuel + 1, ('[', false) :: rest =>
    match bracket? rest with
    | some (part, rest) => part :: ofField fuel rest
    | none => .exactly '[' :: ofField fuel rest
  | fuel + 1, ('\\', false) :: (c, _) :: rest => .exactly c :: ofField fuel rest
  | fuel + 1, (c, _) :: rest => .exactly c :: ofField fuel rest

/-- Whether a pattern stands for one character, and for this one. -/
def acceptsChar (c : Char) : PatternPart → Bool
  | .exactly d => c == d
  | .anyChar => true
  | .anyText => false
  | .oneOf negated members => members.any (·.holds c) != negated

/-- All ends of a text, the text itself first. -/
def ends : Octets → List Octets
  | [] => [[]]
  | c :: rest => (c :: rest) :: ends rest

/-- Whether a pattern stands for a text. -/
def accepts : Pattern → Octets → Bool
  | [], text => text.isEmpty
  | .anyText :: rest, text => (ends text).any (accepts rest)
  | _ :: _, [] => false
  | part :: rest, c :: text => acceptsChar c part && accepts rest text

/-- The lengths from which a text is cut at an end, in the order in which they are tried. -/
def cuts (longest : Bool) (length : Nat) : List Nat :=
  let counts := List.range (length + 1)
  if longest then counts.reverse else counts

/-- A text without the shortest or longest part at an end that a pattern stands for. -/
def trim (p : Pattern) (atEnd longest : Bool) (text : Octets) : Octets :=
  let fits := fun n =>
    if atEnd then p.accepts (text.drop (text.length - n)) else p.accepts (text.take n)
  match (cuts longest text.length).find? fits with
  | none => text
  | some n => if atEnd then text.take (text.length - n) else text.drop n

/-- The pattern of a field. -/
def of (f : Field) : Pattern := ofField (f.length + 1) f

end Pattern

end Shell

end BenchCampaign
