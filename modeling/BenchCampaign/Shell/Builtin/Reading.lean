import BenchCampaign.Shell.Builtin.Letters

/-!
# Reading a line

The parts of a line that is read are given to variables.  The last variable gets
all that is left, without separators around it.

* `Builtin.readLine`: the characters of a line, and what follows it.
* `Builtin.parts`: the parts of a line.
* `Builtin.read`.
-/

namespace BenchCampaign

namespace Shell

namespace Builtin

open State

/-- The characters of a line with whether a backslash hides each of them, and what follows;
none follows at the end of the text. -/
def readLine (isRaw : Bool) : Octets → Field × Option Octets
  | [] => ([], none)
  | '\n' :: rest => ([], some rest)
  | '\x00' :: rest => readLine isRaw rest
  | '\\' :: c :: rest =>
    if isRaw then
      let (line, after) := readLine isRaw (c :: rest)
      (('\\', false) :: line, after)
    else
      let (line, after) := readLine isRaw rest
      if c = '\n' || c = '\x00' then (line, after) else ((c, true) :: line, after)
  | '\\' :: [] => if isRaw then ([('\\', false)], none) else ([], none)
  | c :: rest =>
    let (line, after) := readLine isRaw rest
    ((c, false) :: line, after)

/-- Whether a character separates parts. -/
def isSeparator (separators : Octets) (c : Char × Bool) : Bool := !c.2 && separators.contains c.1

/-- Whether a character is a blank that separates parts. -/
def isBlank (separators : Octets) (c : Char × Bool) : Bool :=
  isSeparator separators c && [' ', '\t', '\n'].contains c.1

/-- Without blanks that separate parts at the end. -/
def trimEnd (separators : Octets) (line : Field) : Field :=
  (line.reverse.dropWhile (isBlank separators)).reverse

/-- The next part, and what follows it and its separator. -/
def nextPart (separators : Octets) (line : Field) : Field × Field :=
  let part := line.takeWhile fun c => !isSeparator separators c
  let rest := (line.drop part.length).dropWhile (isBlank separators)
  let rest := match rest with
    | c :: more =>
      if isSeparator separators c then more.dropWhile (isBlank separators) else rest
    | [] => []
  (part, rest)

/-- The parts of a line for a number of variables. -/
def parts (separators : Octets) : (count : Nat) → Field → List Field
  | 0, _ => []
  | 1, line =>
    let (part, rest) := nextPart separators line
    [if rest.isEmpty then part else trimEnd separators line]
  | count + 2, line =>
    let (part, rest) := nextPart separators line
    part :: parts separators (count + 1) rest

/-- Reads a line; the status tells whether it had an end. -/
def read : Builtin := fun _ arguments st =>
  st.withLetters "p:r" arguments fun o st =>
    if o.operands.isEmpty then st.fail .argumentCount
    else
      let i := st.input 0
      let (line, rest) := if i.fault?.isSome then ([], none) else readLine (o.has 'r') i.text
      let st := st.setInput 0 (i.withText (rest.getD []))
      let separators := st.separators
      let line := line.dropWhile (isBlank separators)
      let values := (parts separators o.operands.length line).map Field.chars
      let st := (o.operands.zip values).foldl (fun st (name, value) =>
        if st.isRunning then st.assignNamed name value else st) st
      if st.isRunning then st.withStatus (if rest.isSome then 0 else 1) else st

end Builtin

end Shell

end BenchCampaign
