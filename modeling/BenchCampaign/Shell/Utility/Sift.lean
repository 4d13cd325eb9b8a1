import BenchCampaign.Shell.Regex.Reader
import BenchCampaign.Shell.Utility.File

/-!
# Sifting lines

A program that tells the lines of files in which patterns stand.

* `Sifter`: what is looked for.
* `Utility.grep`.
-/

namespace BenchCampaign

namespace Shell

/-- What is looked for in lines. -/
structure Sifter where
  patterns : List Regex
  ignoresCase : Bool
  isInverted : Bool
  /-- Whether a pattern has to stand for words. -/
  wantsWords : Bool
  /-- Whether a pattern has to stand for the line. -/
  wantsLine : Bool

namespace Sifter

/-- A line to be looked at. -/
def subject (s : Sifter) (line : Octets) : Regex.Subject := ⟨line.toArray, s.ignoresCase, false⟩

/-- Whether a part of a line may be what a pattern stands for. -/
def passes (s : Sifter) (line : Regex.Subject) (start stop : Nat) : Bool :=
  let isWordPartAt := fun (k : Nat) => (line.chars[k]?).any Regex.isWordPart
  if s.wantsLine then start = 0 && stop = line.chars.size
  else if s.wantsWords then
    !(0 < start && isWordPartAt (start - 1)) && !isWordPartAt stop
  else true

/-- The leftmost of the longest parts of a line that one of the patterns stands for. -/
def find? (s : Sifter) (line : Regex.Subject) (start : Nat) : Option Regex.Match :=
  (s.patterns.filterMap fun r => r.findWith? line (s.passes line) start).foldl
    (fun (best : Option Regex.Match) m =>
      match best with
      | none => some m
      | some b => if m.start < b.start || m.start = b.start && b.stop < m.stop then some m
          else some b) none

/-- Whether a line is selected. -/
def selects (s : Sifter) (line : Octets) : Bool :=
  (s.find? (s.subject line) 0).isSome != s.isInverted

/-- The parts of a line that patterns stand for, with the places where they begin. -/
def parts (s : Sifter) (line : Octets) : List (Nat × Octets) :=
  go (s.subject line) (line.length + 1) 0
where
  /-- Looks on from a place. -/
  go (subject : Regex.Subject) : (fuel : Nat) → Nat → List (Nat × Octets)
    | 0, _ => []
    | fuel + 1, start =>
      match s.find? subject start with
      | none => []
      | some m =>
        if m.stop = m.start then go subject fuel (m.stop + 1)
        else (m.start, m.text subject 0) :: go subject fuel m.stop

end Sifter

namespace Utility

namespace Grep

/-! ## Patterns -/

/-- An expression for a text as it is. -/
def literal (text : Octets) : Regex :=
  text.foldr (fun c r => match r with
    | .empty => .char c
    | r => .seq (.char c) r) .empty

/-- A pattern in which letters behind backslashes stand for classes that they do not stand
for otherwise. -/
def withDigits : Octets → Octets
  | '\\' :: 'd' :: rest => "[0-9]".toList ++ withDigits rest
  | '\\' :: 'D' :: rest => "[^0-9]".toList ++ withDigits rest
  | '\\' :: c :: rest => '\\' :: c :: withDigits rest
  | c :: rest => c :: withDigits rest
  | [] => []

/-- The expression of a pattern; the last option for the kind of patterns counts. -/
def expression (o : Options) (text : Octets) : Except RegexFault Regex :=
  match o.last? ['E', 'F', 'G', 'P'] with
  | some 'F' => .ok (literal text)
  | some 'E' => Regex.read ⟨true, false, false⟩ text
  | some 'P' => Regex.read ⟨true, true, false⟩ (withDigits text)
  | _ => Regex.read ⟨false, false, false⟩ text

/-- What a fault of a pattern is told as. -/
def faultText : RegexFault → String
  | .openBracket => "Invalid regular expression"
  | fault => fault.text

/-! ## Output -/

/-- How lines are told. -/
structure Manner where
  /-- The name of the file in front of lines, if it is told. -/
  name : Option Octets
  withNumbers : Bool
  withOffsets : Bool
  onlyParts : Bool

/-- A line with what stands in front of it; `mark` follows each of its parts. -/
def shownLine (m : Manner) (mark : Char) (number offset : Nat) (line : Octets) : Octets :=
  let part := fun (isShown : Bool) (cs : Octets) => if isShown then cs ++ [mark] else []
  part m.name.isSome (m.name.getD []) ++ part m.withNumbers (Octets.ofNat number) ++
    part m.withOffsets (Octets.ofNat offset) ++ line ++ ['\n']

/-- A line of a file. -/
structure Place where
  number : Nat
  offset : Nat
  line : Octets
  isSelected : Bool

/-- The lines of a text, up to some number of selected ones and as many more as follow them:
whether all were looked at is told by what is left. -/
def places (s : Sifter) (most : Option Nat) (after : Nat) : (fuel : Nat) → (number offset found : Nat) →
    List Octets → List Place
  | 0, _, _, _, _ => []
  | _, _, _, _, [] => []
  | fuel + 1, number, offset, found, line :: rest =>
    let plain := Octets.withoutLineFeed line
    if most = some found then
      ((line :: rest).take after).zipIdx.map fun (l, k) =>
        ⟨number + k, offset, Octets.withoutLineFeed l, false⟩
    else
      let isSelected := s.selects plain
      ⟨number, offset, plain, isSelected⟩ ::
        places s most after fuel (number + 1) (offset + line.length)
          (if isSelected then found + 1 else found) rest

/-- The text for the lines of a file: selected ones, and those around them. -/
def listing (s : Sifter) (m : Manner) (context : Option (Nat × Nat)) (separates : Bool)
    (ps : List Place) : Octets :=
  let selected := (ps.filter (·.isSelected)).map (·.number)
  let (before, after) := context.getD (0, 0)
  let isNear := fun (n : Nat) => selected.any fun k => k ≤ n + before && n ≤ k + after
  let shown := ps.filter fun p => p.isSelected || isNear p.number
  let text := fun (p : Place) =>
    if !p.isSelected then
      (if m.onlyParts then [] else shownLine m '-' p.number p.offset p.line)
    else if m.onlyParts then
      if s.isInverted then []
      else (s.parts p.line).flatMap fun (start, cs) => shownLine m ':' p.number (p.offset + start) cs
    else shownLine m ':' p.number p.offset p.line
  let step := fun ((last, parts) : Option Nat × List Octets) (p : Place) =>
    let gap := match last with
      | some n => context.isSome && separates && n + 1 < p.number
      | none => false
    (some p.number, text p :: (if gap then "--\n".toList :: parts else parts))
  ((shown.foldl step (none, [])).2.reverse).flatten

/-- What has been found in files. -/
structure Found where
  isSelected : Bool
  hasFailed : Bool
  isOver : Bool

/-! ## Files -/

/-- How the program is to be used. -/
def usageText : Octets := "Usage: grep [OPTION]... PATTERNS [FILE]...\n".toList

/-- The files to be looked at in a directory, by their paths. -/
def within (o : Options) (w : Work) (path : Octets) (l : Location) : List Octets :=
  let fits := fun (p : Octets) (pattern : Octets) =>
    (Pattern.of (Field.ofOctets false pattern)).accepts (baseName p)
  let isWanted := fun (p : Octets) =>
    ((o.values 'N').isEmpty || (o.values 'N').any (fits p)) && !(o.values 'X').any (fits p)
  ((pathsWithin w.host.tree maxDepth path l).filter fun e =>
    w.host.tree.entry? e.2 ≠ some .directory && isWanted e.1).map Prod.fst

/-- Looks at the text of a file. -/
def searchText (o : Options) (s : Sifter) (isNamed : Bool) (context : Option (Nat × Nat))
    (path : Octets) (i : Input) : StateM Work Bool := do
  let name := if path = ['-'] then (o.value? 'Y').getD "(standard input)".toList else path
  let lines := Octets.lines i.text
  let most := (o.value? 'm').bind Octets.natural?
  let stopsEarly := o.has 'q' || o.has 'l' || o.has 'L'
  let ps := places s (if stopsEarly then some 1 else most) ((context.map Prod.snd).getD 0)
    (lines.length + 1) 1 0 0 lines
  let count := (ps.filter (·.isSelected)).length
  let isFound := count ≠ 0 && most ≠ some 0
  if path = ['-'] && most.isSome then
    let last := ((ps.filter (·.isSelected)).getLast?.map (·.number)).getD lines.length
    if most = some count then Work.leaveInput (i.leaving (lines.drop last).flatten)
  if o.has 'q' then return isFound
  let lead := if isNamed then some name else none
  if o.has 'l' then
    if isFound then Work.print (name ++ [if o.has 'Z' then '\x00' else '\n'])
  else if o.has 'L' then
    if !isFound then Work.print (name ++ [if o.has 'Z' then '\x00' else '\n'])
  else if o.has 'c' then
    Work.printLine ((lead.map (· ++ [':'])).getD [] ++ Octets.ofNat count)
  else if !o.has 'a' && i.text.contains '\x00' then
    if isFound then Work.print ("grep: ".toList ++ name ++ ": binary file matches\n".toList)
  else
    Work.print (listing s ⟨lead, o.has 'n', o.has 'b', o.has 'o'⟩ context (!o.has 'K') ps)
  return isFound

/-- Looks at a file, or at all in a directory. -/
def search (o : Options) (s : Sifter) (isNamed : Bool) (context : Option (Nat × Nat)) (found : Found)
    (path : Octets) : StateM Work Found := do
  if found.isOver then return found
  let w ← get
  let isRecursive := o.has 'r' || o.has 'R'
  let fails := fun (fault : String) => do
    if !o.has 's' then Work.warn (path ++ [':', ' '] ++ fault.toList)
    return { found with hasFailed := true }
  let searchIn := fun (found : Found) (p : Octets) (i : Input) => do
    let isFound ← searchText o s isNamed context p i
    return { found with
      isSelected := found.isSelected || isFound
      isOver := found.isOver || (o.has 'q' && isFound) }
  if path ≠ ['-'] && w.isDirectory path then
    if isRecursive then
      match w.place path with
      | .error fault => fails fault.description
      | .ok l =>
        (within o w path l).foldlM (fun (found : Found) p => do
          match Work.openPath w p with
          | .ok i => searchIn found p i
          | .error _ => return found) found
    else if o.value? 'd' = some "skip".toList then return found
    else fails PathFault.isDirectory.description
  else
    match ← Work.read path with
    | .error fault => fails fault
    | .ok i => searchIn found path i

/-- Whether no line can be selected, whatever is read: none are wanted, there are no
patterns, or all lines have what selected ones must not have. -/
def isVain (o : Options) (patterns : List Octets) : Bool :=
  let isHopeless := match patterns with
    | [] => !o.has 'v'
    | [[]] => o.has 'v' && !o.has 'w' && !o.has 'x'
    | _ => false
  !o.has 'L' && (o.value? 'm' = some ['0'] || isHopeless)

/-- Looks at all files, and sets the status. -/
def searchAll (o : Options) (patterns : List Regex) (operands : List Octets) :
    StateM Work Unit := do
  let s : Sifter :=
    { patterns := patterns
      ignoresCase := o.has 'i' || o.has 'y'
      isInverted := o.has 'v'
      wantsWords := o.has 'w'
      wantsLine := o.has 'x' }
  let digits := (o.given.map Prod.fst).filter Char.isDigit
  let size := fun (c : Char) => (o.value? c).or (o.value? 'C')
  let around := fun (c : Char) => ((size c).bind Octets.natural?).or (Octets.natural? digits)
  let hasContext := !digits.isEmpty || o.has 'A' || o.has 'B' || o.has 'C'
  let context := if hasContext then some ((around 'B').getD 0, (around 'A').getD 0) else none
  let isRecursive := o.has 'r' || o.has 'R'
  let isNamed := match o.last? ['H', 'h'] with
    | some 'H' => true
    | some _ => false
    | none => 1 < operands.length || isRecursive
  let w ← get
  let here := ((w.host.tree.names w.host.directory).mergeSort fun a b => decide (a ≤ b)).map
    Octets.ofString
  let paths := if !operands.isEmpty then operands else if isRecursive then here else [['-']]
  let found ← paths.foldlM (search o s isNamed context) ⟨false, false, false⟩
  Work.setStatus (if found.hasFailed && !(o.has 'q' && found.isSelected) then 2
    else if found.isSelected then 0 else 1)

end Grep

/-- The options of the program. -/
def grepOptions : OptionSet :=
  let s := OptionSet.of "EFGPe:f:iyvwxclLqsm:bnHhoA:B:C:rRazZTd:D:UIuN:X:Y:KQ0123456789"
    [("extended-regexp", 'E'), ("fixed-strings", 'F'), ("basic-regexp", 'G'), ("perl-regexp", 'P'),
      ("regexp", 'e'), ("file", 'f'), ("ignore-case", 'i'), ("no-ignore-case", 'u'),
      ("invert-match", 'v'), ("word-regexp", 'w'), ("line-regexp", 'x'), ("count", 'c'),
      ("files-with-matches", 'l'), ("files-without-match", 'L'), ("quiet", 'q'), ("silent", 'q'),
      ("no-messages", 's'), ("max-count", 'm'), ("byte-offset", 'b'), ("line-number", 'n'),
      ("with-filename", 'H'), ("no-filename", 'h'), ("only-matching", 'o'),
      ("after-context", 'A'), ("before-context", 'B'), ("context", 'C'), ("recursive", 'r'),
      ("text", 'a'), ("null", 'Z'), ("include", 'N'), ("exclude", 'X'), ("label", 'Y'),
      ("no-group-separator", 'K'), ("line-buffered", 'u'), ("color", 'u'), ("colour", 'u')]
  { s with
    letters := s.letters.filter fun l => !(['N', 'X', 'Y', 'K', 'Q', 'u'].contains l.1)
    names := s.names.map fun n => if n.1 = "color" || n.1 = "colour" then (n.1, n.2.1, .maybe) else n }

/-- Tells how the program is to be used. -/
def grepUsage : StateM Work Unit := do
  Work.write 2 Grep.usageText
  Work.suggestHelp
  Work.setStatus 2

/-- Tells the lines in which patterns stand; `kind` is the kind of patterns if no option is
given for it. -/
def grepAs (kind : List Char) : Utility := fun arguments =>
  match Options.read grepOptions arguments with
  | .error fault => do
    Work.complain 2 fault.text
    grepUsage
  | .ok o => do
    let o := { o with given := kind.map (fun c => (c, ([] : Octets))) ++ o.given }
    let kinds := (o.given.map Prod.fst).filter fun c => ['E', 'F', 'G', 'P'].contains c
    if !(kinds.all fun c => kinds.head? = some c) then
      Work.complain 2 "conflicting matchers specified".toList
      return
    let fileTexts ← (o.values 'f').mapM (Work.readText? 2)
    if fileTexts.any Option.isNone then return
    let given := (o.values 'e').flatMap (Octets.partsAt '\n') ++
      fileTexts.flatMap fun t => Octets.plainLines (t.getD [])
    let hasPatterns := o.has 'e' || o.has 'f'
    let (texts, operands) := if hasPatterns then (some given, o.operands)
      else (o.operands.head?.map (Octets.partsAt '\n'), o.operands.drop 1)
    let badSize := (['A', 'B', 'C'].filterMap o.value?).find? fun v => (Octets.natural? v).isNone
    match texts with
    | none => grepUsage
    | some texts =>
      match badSize, (o.value? 'm').filter fun v => (Octets.int? v).isNone with
      | some v, _ => Work.complain 2 (v ++ ": invalid context length argument".toList)
      | none, some _ => Work.complain 2 "invalid max count".toList
      | none, none =>
        if Grep.isVain o texts then Work.setStatus 1
        else match texts.mapM (Grep.expression o) with
        | .error fault => Work.complain 2 (Grep.faultText fault).toList
        | .ok patterns => Grep.searchAll o patterns operands

/-- Tells the lines in which patterns stand. -/
def grep : Utility := grepAs []

end Utility

end Shell

end BenchCampaign
