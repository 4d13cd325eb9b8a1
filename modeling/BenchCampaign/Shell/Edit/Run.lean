import BenchCampaign.Shell.Edit.Reader

/-!
# Running scripts of edits

A script is run once for every line.  The line lies in a space that commands
change; another text is held meanwhile.  What is left in the space at the end is
written.

* `EditState`: what commands change.
* `EditState.run`: runs a script for all lines.
-/

namespace BenchCampaign

namespace Shell

/-- A line, and whether a delimiter ended it. -/
structure EditLine where
  text : Octets
  isEnded : Bool
deriving DecidableEq, Repr

/-- A line that is still to be read, and the file that it comes from. -/
structure EditInput where
  line : EditLine
  file : Octets
deriving DecidableEq, Repr

/-- Where something is written: to the result, or where a command says. -/
inductive EditStream where
  | result
  | sink (s : EditSink)
deriving DecidableEq, Repr

/-- What is written before the next line is read. -/
inductive QueuedText where
  | text (cs : Octets)
  | file (path : Octets)
deriving DecidableEq, Repr

/-- How far lines are in the range of a command. -/
inductive RangeState where
  | inactive
  /-- Up to a line, if its number is known. -/
  | active (last : Option Nat)
  | closed
deriving DecidableEq, Repr

/-- What stays the same while a script is run. -/
structure EditSetting where
  script : EditScript
  delimiter : Char
  isQuiet : Bool
  /-- How many characters are shown in a line. -/
  width : Nat
  /-- What a file holds. -/
  content? : Octets → Option Octets

/-- What commands change. -/
structure EditState where
  ahead : List EditInput
  space : EditLine
  held : EditLine
  number : Nat
  file : Octets
  /-- Whether something was replaced in the present line. -/
  isReplaced : Bool
  /-- The last text first. -/
  queue : List QueuedText
  ranges : Array RangeState
  lastPattern : Option LinePattern
  /-- The lines that are left of files that are read line by line. -/
  readers : List (Octets × List Octets)
  /-- What was written, the last part first. -/
  written : List (EditStream × Octets)
  /-- The streams on which the last line has no delimiter. -/
  unended : List EditStream
  fault : Option EditFault

/-- How a script goes on behind a command. -/
inductive Onward where
  | next
  | to (index : Nat)
  /-- The line has come to its end. -/
  | ended (prints : Bool)
  /-- The script is run again for what is left in the space. -/
  | again
  | quit (status : Nat)
deriving DecidableEq, Repr

namespace EditState

/-! ## Writing -/

/-- Writes to a stream, behind a complete line. -/
def emit (e : EditSetting) (stream : EditStream) (cs : Octets) (s : EditState) : EditState :=
  let cs := if s.unended.contains stream then e.delimiter :: cs else cs
  { s with
    written := (stream, cs) :: s.written
    unended := s.unended.filter (· ≠ stream) }

/-- Writes a line to a stream, with a delimiter if it had one. -/
def emitLine (e : EditSetting) (stream : EditStream) (line : EditLine) (s : EditState) :
    EditState :=
  let s := s.emit e stream (line.text ++ if line.isEnded then [e.delimiter] else [])
  if line.isEnded then s else { s with unended := stream :: s.unended }

/-- Writes what was put off. -/
def flushQueue (e : EditSetting) (s : EditState) : EditState :=
  s.queue.reverse.foldl (fun s q =>
    match q with
    | .text cs => s.emit e .result cs
    | .file path => s.emit e .result ((e.content? path).getD [])) { s with queue := [] }

/-- Writes the space, unless the script is quiet. -/
def printUnlessQuiet (e : EditSetting) (s : EditState) : EditState :=
  if e.isQuiet then s else s.emitLine e .result s.space

/-! ## Reading -/

/-- Reads the next line, which `join` puts together with the space. -/
def advance? (e : EditSetting) (join : EditLine → EditLine → EditLine) (s : EditState) :
    Option EditState :=
  match s.ahead with
  | [] => none
  | input :: ahead =>
    let s := s.flushQueue e
    some { s with
      ahead := ahead
      space := join s.space input.line
      file := input.file
      number := s.number + 1
      isReplaced := false }

/-- Two texts with a delimiter between them. -/
def joined (e : EditSetting) (a b : EditLine) : EditLine :=
  ⟨a.text ++ e.delimiter :: b.text, b.isEnded⟩

/-- A text with another one added to it. -/
def extended (e : EditSetting) (a b : EditLine) : EditLine :=
  ⟨a.text ++ e.delimiter :: b.text, a.isEnded || b.isEnded⟩

/-! ## Guards -/

/-- The pattern that is meant, with the one looked for last in place of an empty one. -/
def meant (p : LinePattern) (s : EditState) : Option LinePattern × EditState :=
  match p.regex, s.lastPattern with
  | some _, _ => (some p, { s with lastPattern := some p })
  | none, some last => (some last, s)
  | none, none => (none, { s with fault := some .noPattern })

/-- The space, as a pattern looks at it. -/
def subject (p : LinePattern) (s : EditState) : Regex.Subject :=
  ⟨s.space.text.toArray, p.ignoresCase, p.hasLines⟩

/-- Whether a pattern is found in the space. -/
def finds (p : LinePattern) (s : EditState) : Bool × EditState :=
  match s.meant p with
  | (some p, s) => ((p.regex.getD .empty).find? (s.subject p) 0 |>.isSome, s)
  | (none, s) => (false, s)

/-- Whether an address stands for the present line. -/
def isAt (a : LineAddress) (s : EditState) : Bool × EditState :=
  match a with
  | .number n => (s.number = n, s)
  | .last => (s.ahead.isEmpty, s)
  | .step first width => (first ≤ s.number && (s.number - first) % width = 0, s)
  | .pattern p => s.finds p

/-- With the state of the range of a command. -/
def setRange (index : Nat) (r : RangeState) (s : EditState) : EditState :=
  { s with ranges := s.ranges.setIfInBounds index r }

/-- What becomes of a range behind its last line; one from a line of a number on does not
begin again. -/
def afterRange (first : LineAddress) : RangeState :=
  match first with
  | .number _ => .closed
  | _ => .inactive

/-- Begins the range of a command at the present line. -/
def beginRange (index : Nat) (first : LineAddress) (last : RangeEnd) (s : EditState) :
    EditState :=
  let upTo := fun (n : Nat) =>
    s.setRange index (if n ≤ s.number then afterRange first else .active (some n))
  match last with
  | .address (.number n) => upTo n
  | .following count => upTo (s.number + count)
  | .multiple n => upTo (if n = 0 then s.number else (s.number + n - 1) / n * n)
  | .address _ => s.setRange index (.active none)

/-- Whether the present line is in a range. -/
def isInRange (index : Nat) (first : LineAddress) (last : RangeEnd) (s : EditState) :
    Bool × EditState :=
  match (s.ranges[index]?).getD .inactive with
  | .closed => (false, s)
  | .active (some n) =>
    (s.number ≤ n, if n ≤ s.number then s.setRange index (afterRange first) else s)
  | .active none =>
    match last with
    | .address a =>
      let (isLast, s) := s.isAt a
      (true, if isLast then s.setRange index (afterRange first) else s)
    | _ => (true, s)
  | .inactive =>
    let (begins, s) := match first, last with
      | .number n, .address (.number m) =>
        (decide (s.number = n) || decide (n < s.number && s.number ≤ m), s)
      | .number n, _ => (decide (n ≤ s.number), s)
      | first, _ => s.isAt first
    if begins then (true, s.beginRange index first last) else (false, s)

/-- Whether a command is run for the present line. -/
def isSelected (index : Nat) (g : EditGuard) (s : EditState) : Bool × EditState :=
  let (isIn, s) := match g.first, g.last with
    | none, _ => (true, s)
    | some a, none => s.isAt a
    | some a, some e => s.isInRange index a e
  (isIn != g.isNegated, s)

/-! ## Substitutions -/

/-- A letter after a change. -/
def changed : CaseChange → Char → Char
  | .none, c => c
  | .upper, c => c.toUpper
  | .lower, c => c.toLower

/-- What is put in place of something found. -/
def replacementText (parts : List ReplacementPart) (m : Regex.Match) (subject : Regex.Subject) :
    Octets :=
  let put := fun ((taken, all, one) : List Octets × CaseChange × CaseChange) (cs : Octets) =>
    match cs with
    | [] => (taken, all, one)
    | c :: rest =>
      let c := changed (if one = .none then all else one) c
      ((c :: rest.map (changed all)) :: taken, all, CaseChange.none)
  let step := fun (acc : List Octets × CaseChange × CaseChange) (part : ReplacementPart) =>
    match part with
    | .text cs => put acc cs
    | .group index => put acc (m.text subject index)
    | .changeAll change => (acc.1, change, .none)
    | .changeNext change => (acc.1, acc.2.1, change)
  (parts.foldl step ([], .none, .none)).1.reverse.flatten

/-- Replaces what is found from a place on: the parts of the text, and whether something was
replaced.  `found` counts what was found before, and nothing empty is found at `stop`. -/
def replacing (t : Substitution) (r : Regex) (subject : Regex.Subject) :
    (fuel : Nat) → (start found : Nat) → (stop : Option Nat) → List Octets × Bool
  | 0, _, _, _ => ([], false)
  | fuel + 1, start, found, stop =>
    let text := fun (a b : Nat) => (subject.chars.extract a b).toList
    match if start ≤ subject.chars.size then r.find? subject start else none with
    | none => ([text start subject.chars.size], false)
    | some m =>
      let before := text start m.start
      if m.stop = m.start && stop = some m.start then
        let (rest, isReplaced) := replacing t r subject fuel (m.stop + 1) found none
        (before :: text m.start (m.start + 1) :: rest, isReplaced)
      else
        let isWanted := t.number ≤ found + 1
        let put := if isWanted then replacementText t.replacement m subject
          else text m.start m.stop
        if isWanted && !t.isGlobal then
          ([before, put, text m.stop subject.chars.size], true)
        else if m.stop = m.start then
          let (rest, isReplaced) := replacing t r subject fuel (m.stop + 1) (found + 1) none
          (before :: put :: text m.start (m.start + 1) :: rest, isWanted || isReplaced)
        else
          let (rest, isReplaced) := replacing t r subject fuel m.stop (found + 1) (some m.stop)
          (before :: put :: rest, isWanted || isReplaced)

/-- Replaces what is found in the space. -/
def substitute (e : EditSetting) (t : Substitution) (s : EditState) : EditState :=
  match s.meant t.pattern with
  | (none, s) => s
  | (some p, s) =>
    let subject := s.subject p
    let (parts, isReplaced) :=
      replacing t (p.regex.getD .empty) subject (subject.chars.size + 2) 0 0 none
    if !isReplaced then s
    else
      let s := { s with space := { s.space with text := parts.flatten }, isReplaced := true }
      let s := if t.prints then s.emitLine e .result s.space else s
      match t.sink with
      | some sink => s.emitLine e (.sink sink) s.space
      | none => s

/-! ## Showing lines -/

/-- A character as it is shown without doubt. -/
def shownCharacter (c : Char) : Octets :=
  match c with
  | '\\' => ['\\', '\\']
  | '\x07' => ['\\', 'a']
  | '\x08' => ['\\', 'b']
  | '\x0c' => ['\\', 'f']
  | '\n' => ['\\', 'n']
  | '\r' => ['\\', 'r']
  | '\t' => ['\\', 't']
  | '\x0b' => ['\\', 'v']
  | c =>
    if ' ' ≤ c && c ≤ '~' then [c]
    else
      let ds := Nat.toDigits 8 c.toNat
      '\\' :: List.replicate (3 - ds.length) '0' ++ ds

/-- A text as it is shown without doubt, in lines of some width; zero sets no limit. -/
def shown (width : Nat) (text : Octets) : Octets :=
  let step := fun ((taken, used) : List Octets × Nat) (c : Char) =>
    let cs := shownCharacter c
    if 0 < width && width - 1 < used + cs.length then (cs :: "\\\n".toList :: taken, cs.length)
    else (cs :: taken, used + cs.length)
  (text.foldl step ([], 0)).1.reverse.flatten ++ ['$', '\n']

/-! ## Commands -/

/-- The first line of the space. -/
def firstLine (e : EditSetting) (s : EditState) : Octets := s.space.text.takeWhile (· ≠ e.delimiter)

/-- Puts the next line of a file among what is written later. -/
def queueLine (e : EditSetting) (path : Octets) (s : EditState) : EditState :=
  let lines := match s.readers.find? fun r => r.1 = path with
    | some r => r.2
    | none => Octets.lines ((e.content? path).getD [])
  match lines with
  | [] => s
  | line :: rest =>
    { s with
      queue := .text line :: s.queue
      readers := (path, rest) :: s.readers.filter fun r => r.1 ≠ path }

/-- Goes on at a label. -/
def goTo (e : EditSetting) (label : Octets) : Onward :=
  .to ((e.script.place? label).getD e.script.commands.size)

/-- Does what a command does. -/
def perform (e : EditSetting) (index : Nat) (a : EditAction) (s : EditState) : EditState × Onward :=
  match a with
  | .nothing => (s, .next)
  | .block _ => (s, .next)
  | .append cs => ({ s with queue := .text cs :: s.queue }, .next)
  | .insert cs => (s.emit e .result cs, .next)
  | .change cs =>
    let isGoingOn := match s.ranges[index]? with
      | some (.active _) => true
      | _ => false
    (if isGoingOn then s else s.emit e .result cs, .ended false)
  | .transfer .always label => (s, goTo e label)
  | .transfer .ifReplaced label =>
    if s.isReplaced then ({ s with isReplaced := false }, goTo e label) else (s, .next)
  | .transfer .unlessReplaced label =>
    if s.isReplaced then ({ s with isReplaced := false }, .next) else (s, goTo e label)
  | .delete => (s, .ended false)
  | .deleteLine =>
    if s.space.text.contains e.delimiter then
      let rest := s.space.text.drop ((s.firstLine e).length + 1)
      ({ s with space := { s.space with text := rest } }, .again)
    else (s, .ended false)
  | .fileName => (s.emit e .result (s.file ++ ['\n']), .next)
  | .take => ({ s with space := s.held }, .next)
  | .takeMore => ({ s with space := extended e s.space s.held }, .next)
  | .hold => ({ s with held := s.space }, .next)
  | .holdMore => ({ s with held := extended e s.held s.space }, .next)
  | .exchange => ({ s with space := s.held, held := s.space }, .next)
  | .listing width => (s.emit e .result (shown (width.getD e.width) s.space.text), .next)
  | .next =>
    if s.ahead.isEmpty then (s, .ended true)
    else ((s.printUnlessQuiet e).advance? e (fun _ b => b) |>.getD s, .next)
  | .nextMore =>
    match s.advance? e (joined e) with
    | some s => (s, .next)
    | none => (s, .ended true)
  | .print => (s.emitLine e .result s.space, .next)
  | .printLine => (s.emitLine e .result ⟨s.firstLine e, true⟩, .next)
  | .quit status prints =>
    if prints then
      let s := s.printUnlessQuiet e
      ((if s.unended.contains .result then s.emit e .result [] else s).flushQueue e, .quit status)
    else (s, .quit status)
  | .readFile path => ({ s with queue := .file path :: s.queue }, .next)
  | .readLine path => (s.queueLine e path, .next)
  | .substitute t => (s.substitute e t, .next)
  | .write sink => (s.emitLine e (.sink sink) s.space, .next)
  | .writeLine sink => (s.emitLine e (.sink sink) ⟨s.firstLine e, true⟩, .next)
  | .transliterate pairs =>
    let put := fun (c : Char) => ((pairs.find? fun p => p.1 = c).map Prod.snd).getD c
    ({ s with space := { s.space with text := s.space.text.map put } }, .next)
  | .clear => ({ s with space := { s.space with text := [] } }, .next)
  | .number => (s.emit e .result (Octets.ofNat s.number ++ ['\n']), .next)

/-! ## Scripts -/

/-- Runs the commands from one on. -/
def runFrom (e : EditSetting) : (fuel : Nat) → (index : Nat) → EditState → EditState × Onward
  | 0, _, s => (s, .quit 1)
  | fuel + 1, index, s =>
    match e.script.commands[index]? with
    | none => (s, .ended true)
    | some c =>
      let (isRun, s) := s.isSelected index c.guard
      if s.fault.isSome then (s, .quit 1)
      else if !isRun then
        match c.action with
        | .block stop => runFrom e fuel stop s
        | _ => runFrom e fuel (index + 1) s
      else
        let (s, onward) := s.perform e index c.action
        if s.fault.isSome then (s, .quit 1)
        else match onward with
          | .next => runFrom e fuel (index + 1) s
          | .to index => runFrom e fuel index s
          | onward => (s, onward)

/-- How many commands are run for a line. -/
def maxCommands : Nat := 100000

/-- Runs the script for the present line, and for all that follow: the status, if the script
ended early. -/
def runLines (e : EditSetting) : (fuel : Nat) → EditState → EditState × Option Nat
  | 0, s => (s, some 1)
  | fuel + 1, s =>
    match s.runFrom e maxCommands 0 with
    | (s, .quit status) => (s, some status)
    | (s, .again) => runLines e fuel (s.flushQueue e)
    | (s, onward) =>
      let s := if onward = .ended true then s.printUnlessQuiet e else s
      match s.advance? e (fun _ b => b) with
      | some s => runLines e fuel s
      | none => (s.flushQueue e, none)

/-- With the ranges as they are at the beginning: those from the line zero on have begun. -/
def restarted (e : EditSetting) (s : EditState) : EditState :=
  { s with ranges := e.script.commands.map fun c =>
      if c.guard.first.any Edit.isLineZero then .active none else .inactive }

/-- The state in which a script is started. -/
def initial : EditState where
  ahead := []
  space := ⟨[], true⟩
  held := ⟨[], true⟩
  number := 0
  file := ['-']
  isReplaced := false
  queue := []
  ranges := #[]
  lastPattern := none
  readers := []
  written := []
  unended := []
  fault := none

/-- Runs a script for some lines that are numbered from one on. -/
def run (e : EditSetting) (inputs : List EditInput) (s : EditState) : EditState × Option Nat :=
  let s := { s.restarted e with ahead := inputs, number := 0 }
  let size := inputs.foldl (fun n i => n + i.line.text.length + 1) 1
  match s.advance? e (fun _ b => b) with
  | some s => runLines e (size * 2 + maxCommands) s
  | none => (s, none)

end EditState

end Shell

end BenchCampaign
