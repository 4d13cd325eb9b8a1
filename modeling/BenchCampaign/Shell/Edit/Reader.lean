import BenchCampaign.Shell.Edit
import BenchCampaign.Shell.Numeral
import BenchCampaign.Shell.Regex.Reader

/-!
# Reading scripts of edits

A script of edits comes in parts, from arguments and from files.  What is wrong
with it is told with the place where it was found.

* `EditScript.read`: the script of some parts.
* `EditFault.text`: what is wrong, in words.
-/

namespace BenchCampaign

namespace Shell

/-! ## Faults -/

/-- What is wrong with a script. -/
inductive EditFault where
  | unknownCommand (c : Char)
  | missingCommand
  | manyNegations
  | bareComma
  | badFirstAddress
  | lineZero
  | openBlock
  | closedBlock
  | blockEndAddress
  | labelAddress
  | commentAddress
  | noLabel
  | extraCharacters
  | noText
  | oneAddress
  | openAddress
  | openSubstitution
  | openTransliteration
  | unknownFlag
  | manyPrints
  | manyGlobals
  | manyNumbers
  | zeroNumber
  | differentLengths
  | newerVersion
  | noFileName
  | emptyWithFlags
  | badReference (index : Nat)
  | noPattern
  | regex (fault : RegexFault)
deriving DecidableEq, Repr

/-- A fault in words. -/
def EditFault.text : EditFault → Octets
  | unknownCommand c => "unknown command: `".toList ++ [c, '\'']
  | missingCommand => "missing command".toList
  | manyNegations => "multiple `!'s".toList
  | bareComma => "unexpected `,'".toList
  | badFirstAddress => "invalid usage of +N or ~N as first address".toList
  | lineZero => "invalid usage of line address 0".toList
  | openBlock => "unmatched `\x7b'".toList
  | closedBlock => "unexpected `\x7d'".toList
  | blockEndAddress => "`\x7d' doesn't want any addresses".toList
  | labelAddress => ": doesn't want any addresses".toList
  | commentAddress => "comments don't accept any addresses".toList
  | noLabel => "\":\" lacks a label".toList
  | extraCharacters => "extra characters after command".toList
  | noText => "expected \\ after `a', `c' or `i'".toList
  | oneAddress => "command only uses one address".toList
  | openAddress => "unterminated address regex".toList
  | openSubstitution => "unterminated `s' command".toList
  | openTransliteration => "unterminated `y' command".toList
  | unknownFlag => "unknown option to `s'".toList
  | manyPrints => "multiple `p' options to `s' command".toList
  | manyGlobals => "multiple `g' options to `s' command".toList
  | manyNumbers => "multiple number options to `s' command".toList
  | zeroNumber => "number option to `s' command may not be zero".toList
  | differentLengths => "strings for `y' command are different lengths".toList
  | newerVersion => "expected newer version of sed".toList
  | noFileName => "missing filename in r/R/w/W commands".toList
  | emptyWithFlags => "cannot specify modifiers on empty regexp".toList
  | badReference index =>
    "invalid reference \\".toList ++ Octets.ofNat index ++ " on `s' command's RHS".toList
  | noPattern => "no previous regular expression".toList
  | regex fault => fault.text.toList

/-! ## Places -/

/-- Where a part of a script comes from. -/
inductive EditOrigin where
  | argument (number : Nat)
  | file (path : Octets)
deriving DecidableEq, Repr

/-- A part of a script. -/
structure EditSource where
  origin : EditOrigin
  text : Octets

/-- A place in words: after so many characters, and in a line. -/
def EditOrigin.place (o : EditOrigin) (characters line : Nat) : Octets :=
  match o with
  | argument number =>
    "-e expression #".toList ++ Octets.ofNat number ++ ", char ".toList ++ Octets.ofNat characters
  | file path => "file ".toList ++ path ++ " line ".toList ++ Octets.ofNat line

/-- What is left of a script to be read, and what was read. -/
structure EditCursor where
  rest : Octets
  origin : EditOrigin
  characters : Nat
  line : Nat
  later : List EditSource
  isExtended : Bool
  /-- The last command first. -/
  commands : List EditCommand
  /-- The blocks that are open, the innermost one first, with what would be wrong without
  their ends. -/
  blocks : List (Nat × Octets)
  labels : List (Octets × Nat)
  files : List Octets
  isQuiet : Bool

/-- Reads a part of a script; what is wrong is told with its place. -/
abbrev EditReading := StateT EditCursor (Except Octets)

namespace EditReading

/-- Refuses a script. -/
def refuse {α : Type} (fault : EditFault) : EditReading α := fun c =>
  .error (c.origin.place c.characters c.line ++ ": ".toList ++ fault.text)

/-- Takes the next character of a part. -/
def next : EditReading (Option Char) := fun c =>
  match c.rest with
  | [] => .ok (none, c)
  | a :: rest =>
    .ok (some a, { c with
      rest := rest
      characters := c.characters + 1
      line := if a = '\n' then c.line + 1 else c.line })

/-- Puts a character back. -/
def putBack : Option Char → EditReading Unit
  | none => pure ()
  | some a => modify fun c => { c with
      rest := a :: c.rest
      characters := c.characters - 1
      line := if a = '\n' then c.line - 1 else c.line }

/-- Takes characters as long as they pass a test. -/
def takeWhile (p : Char → Bool) : EditReading Octets := fun c =>
  let taken := c.rest.takeWhile p
  .ok (taken, { c with
    rest := c.rest.drop taken.length
    characters := c.characters + taken.length
    line := c.line + (taken.filter (· = '\n')).length })

/-- Whether a character is a blank. -/
def isBlank (c : Char) : Bool := c = ' ' || c = '\t'

/-- Whether a character leaves space. -/
def isSpace (c : Char) : Bool := isBlank c || ('\n' ≤ c && c ≤ '\r')

/-- Takes the next character that is no blank. -/
def nextNonblank : EditReading (Option Char) := do
  let _ ← takeWhile isBlank
  next

/-- Takes the number that digits spell, zero if there are none. -/
def natural : EditReading Nat := do
  return (Octets.natural? (← takeWhile Char.isDigit)).getD 0

/-- Goes to the next part, if the present one is at its end; whether there was one. -/
def nextSource : EditReading Bool := do
  match (← get).later with
  | [] => return false
  | s :: later =>
    modify fun c => { c with
      rest := s.text, origin := s.origin, characters := 0, line := 1, later := later }
    return true

/-- Takes what has to follow a command at its end. -/
def endOfCommand : EditReading Unit := do
  match ← nextNonblank with
  | none => pure ()
  | some c =>
    if c = '\x7d' || c = '#' then putBack (some c)
    else if c ≠ '\n' && c ≠ ';' then refuse .extraCharacters

end EditReading

namespace Edit

open EditReading

/-! ## Characters by number -/

/-- A character that digits of a base spell, and what follows; at most so many count. -/
def byDigits? (base most : Nat) (text : Octets) : Option (Char × Octets) :=
  let ds := (text.take most).takeWhile fun c =>
    c.isAlphanum && Numeral.digitValue c < base
  if ds.isEmpty then none
  else some (Char.ofNat (Numeral.ofDigits base ds % 256), text.drop ds.length)

/-- The character that a text behind a backslash stands for, and what follows. -/
def escape? : Octets → Option (Char × Octets)
  | 'a' :: rest => some ('\x07', rest)
  | 'f' :: rest => some ('\x0c', rest)
  | 'r' :: rest => some ('\r', rest)
  | 't' :: rest => some ('\t', rest)
  | 'v' :: rest => some ('\x0b', rest)
  | 'c' :: c :: rest => some (Char.ofNat (Nat.xor c.toUpper.toNat 64), rest)
  | 'd' :: rest => byDigits? 10 3 rest
  | 'o' :: rest => byDigits? 8 3 rest
  | 'x' :: rest => byDigits? 16 2 rest
  | _ => none

/-- A pattern with the characters that backslashes stand for. -/
def plainPattern : (fuel : Nat) → Octets → Octets
  | 0, _ => []
  | _, [] => []
  | fuel + 1, '\\' :: text =>
    match escape? text with
    | some (c, rest) => c :: plainPattern fuel rest
    | none => '\\' :: text.take 1 ++ plainPattern fuel (text.drop 1)
  | fuel + 1, c :: text => c :: plainPattern fuel text

/-- A text without its backslashes; a line feed can be written with one. -/
def plainText : (fuel : Nat) → Octets → Octets
  | 0, _ => []
  | _, [] => []
  | fuel + 1, '\\' :: text =>
    match escape? text, text with
    | some (c, rest), _ => c :: plainText fuel rest
    | none, 'n' :: rest => '\n' :: plainText fuel rest
    | none, text => text.take 1 ++ plainText fuel (text.drop 1)
  | fuel + 1, c :: text => c :: plainText fuel text

/-! ## Texts between marks -/

/-- How far a text between marks has been read into a set of characters. -/
inductive SetPlace where
  | outside
  /-- Behind the opening bracket, where a closing one is a member. -/
  | atStart
  | inside
  /-- In a class, up to a character in front of a bracket. -/
  | inClass (mark : Char)
  /-- In front of the bracket that ends a class. -/
  | atClassEnd
deriving DecidableEq, Repr

/-- The place after one more character of a pattern. -/
def SetPlace.after (p : SetPlace) (c : Char) (rest : Octets) : SetPlace :=
  match p with
  | outside => if c = '[' then atStart else outside
  | atStart =>
    if c = '^' then atStart
    else if c = '[' && rest.head?.any (fun d => d = ':' || d = '.' || d = '=') then
      inClass (rest.head?.getD ':')
    else inside
  | inside =>
    if c = ']' then outside
    else if c = '[' && rest.head?.any (fun d => d = ':' || d = '.' || d = '=') then
      inClass (rest.head?.getD ':')
    else inside
  | inClass mark => if c = mark && rest.head? = some ']' then atClassEnd else inClass mark
  | atClassEnd => inside

/-- Reads a text up to a mark, the last character first in `taken`; none if it has no end. -/
def marked (mark : Char) (isPattern : Bool) : (fuel : Nat) → SetPlace → (taken : Octets) →
    EditReading (Option Octets)
  | 0, _, _ => return none
  | fuel + 1, place, taken => do
    match ← next with
    | none => return none
    | some '\n' =>
      putBack (some '\n')
      return none
    | some c =>
      let rest := (← get).rest
      if c = mark && place = .outside then return some taken.reverse
      else if c = '\\' && (place = .outside || rest.head? = some 'n') then
        match ← next with
        | none => return none
        | some d =>
          if d = 'n' && isPattern then marked mark isPattern fuel place ('\n' :: taken)
          else if d = '\n' || (d = mark && !(d = '&' && !isPattern)) then
            marked mark isPattern fuel place (d :: taken)
          else marked mark isPattern fuel place (d :: '\\' :: taken)
      else
        let place := if isPattern then place.after c rest else place
        marked mark isPattern fuel place (c :: taken)

/-- Reads a text up to a mark. -/
def upTo (mark : Char) (isPattern : Bool) : EditReading (Option Octets) := do
  let size := (← get).rest.length
  marked mark isPattern (size + 1) .outside []

/-! ## Addresses -/

/-- The pattern of a text. -/
def pattern (text : Octets) (ignoresCase hasLines : Bool) : EditReading LinePattern := do
  if text.isEmpty then
    if ignoresCase || hasLines then refuse .emptyWithFlags
    return ⟨none, false, false⟩
  else
    match Regex.read ⟨(← get).isExtended, false, true⟩ (plainPattern (text.length + 1) text) with
    | .ok r => return ⟨some r, ignoresCase, hasLines⟩
    | .error .bareClass => fun _ => .error RegexFault.bareClass.text.toList
    | .error fault => refuse (.regex fault)

/-- Reads flags behind an address. -/
def addressFlags : (fuel : Nat) → (ignoresCase hasLines : Bool) → EditReading (Bool × Bool)
  | 0, ignoresCase, hasLines => return (ignoresCase, hasLines)
  | fuel + 1, ignoresCase, hasLines => do
    match ← nextNonblank with
    | some 'I' => addressFlags fuel true hasLines
    | some 'M' => addressFlags fuel ignoresCase true
    | c =>
      putBack c
      return (ignoresCase, hasLines)

/-- Reads an address, of which the first character has been taken. -/
def address? : Option Char → EditReading (Option RangeEnd)
  | some '$' => return some (.address .last)
  | some '+' => do
    let _ ← takeWhile isBlank
    let count ← natural
    return some (.following count)
  | some '~' => do
    let _ ← takeWhile isBlank
    return some (.multiple (← natural))
  | some c => do
    if c = '/' || c = '\\' then
      let mark ← if c = '/' then pure (some c) else next
      match mark with
      | none => refuse .openAddress
      | some mark =>
        match ← upTo mark true with
        | none => refuse .openAddress
        | some text =>
          let (ignoresCase, hasLines) ← addressFlags ((← get).rest.length + 1) false false
          return some (.address (.pattern (← pattern text ignoresCase hasLines)))
    else if c.isDigit then
      putBack (some c)
      let first ← natural
      match ← nextNonblank with
      | some '~' =>
        let _ ← takeWhile isBlank
        let width ← natural
        return some (.address (if width = 0 then .number first else .step first width))
      | c =>
        putBack c
        return some (.address (.number first))
    else return none
  | none => return none

/-- Whether an address is the line zero, which is none. -/
def isLineZero : LineAddress → Bool
  | .number 0 => true
  | _ => false

/-- Reads the guard of a command, of which the first character has been taken, and the
character behind it. -/
def guardFrom (c : Option Char) : EditReading (EditGuard × Option Char) := do
  let (first, last, c) ← match ← address? c with
    | none => pure ((none, none, c) : Option LineAddress × Option RangeEnd × Option Char)
    | some (.address a) =>
      let c ← nextNonblank
      if c = some ',' then
        match ← address? (← nextNonblank) with
        | none => refuse .bareComma
        | some e =>
          let c ← nextNonblank
          pure (some a, some e, c)
      else pure (some a, none, c)
    | some _ => refuse .badFirstAddress
  let endsAtPattern := match last with
    | some (.address (.pattern _)) => true
    | _ => false
  if first.any isLineZero && !endsAtPattern then refuse .lineZero
  if c = some '!' then
    let c ← nextNonblank
    if c = some '!' then refuse .manyNegations
    return (⟨first, last, true⟩, c)
  else return (⟨first, last, false⟩, c)

/-! ## Arguments of commands -/

/-- Reads a label. -/
def label : EditReading Octets := do
  let _ ← takeWhile isBlank
  takeWhile fun c => !isSpace c && c ≠ ';' && c ≠ '#' && c ≠ '\x7d'

/-- Reads the name of a file, up to the end of the line. -/
def fileName : EditReading Octets := do
  let _ ← takeWhile isBlank
  let path ← takeWhile (· ≠ '\n')
  if path.isEmpty then refuse .noFileName
  return path

/-- Reads where lines are written. -/
def sink : EditReading EditSink := do
  let path ← fileName
  if path = "/dev/stdout".toList then return .descriptor 1
  else if path = "/dev/stderr".toList then return .descriptor 2
  else
    modify fun c => { c with files := if c.files.contains path then c.files else c.files ++ [path] }
    return .file path

/-- Reads a text up to a line feed that no backslash hides, with its backslashes; a
backslash at the end of a part hides the end. -/
def textLines : (fuel : Nat) → (taken : Octets) → EditReading Octets
  | 0, taken => return taken.reverse
  | fuel + 1, taken => do
    match ← next with
    | none => return ('\n' :: taken).reverse
    | some '\n' => return ('\n' :: taken).reverse
    | some '\\' =>
      match ← next with
      | some c => textLines fuel (c :: '\\' :: taken)
      | none =>
        if ← nextSource then textLines fuel ('\n' :: taken)
        else return ('\n' :: taken).reverse
    | some c => textLines fuel (c :: taken)

/-- Reads the text of a command. -/
def text : EditReading Octets := do
  let size := ((← get).later.foldl (fun n s => n + s.text.length) (← get).rest.length) * 2 + 2
  let read : EditReading Octets := do
    let cs ← textLines size []
    return plainText (cs.length + 1) cs
  match ← nextNonblank with
  | none => refuse .noText
  | some '\\' =>
    let blanks ← takeWhile isBlank
    match ← next with
    | some '\n' => read
    | none => if ← nextSource then read else return blanks
    | c =>
      putBack c
      return blanks ++ (← read)
  | c =>
    putBack c
    read

/-- Reads a number that may be missing. -/
def number? : EditReading (Option Nat) := do
  let _ ← takeWhile isBlank
  return Octets.natural? (← takeWhile Char.isDigit)

/-! ## Substitutions -/

/-- The parts of what is put in place of something. -/
def replacement : (fuel : Nat) → Octets → List ReplacementPart
  | 0, _ => []
  | _, [] => []
  | fuel + 1, '&' :: rest => .group 0 :: replacement fuel rest
  | fuel + 1, '\\' :: rest =>
    match escape? rest, rest with
    | some (c, rest), _ => .text [c] :: replacement fuel rest
    | none, 'n' :: rest => .text ['\n'] :: replacement fuel rest
    | none, 'U' :: rest => .changeAll .upper :: replacement fuel rest
    | none, 'L' :: rest => .changeAll .lower :: replacement fuel rest
    | none, 'E' :: rest => .changeAll .none :: replacement fuel rest
    | none, 'u' :: rest => .changeNext .upper :: replacement fuel rest
    | none, 'l' :: rest => .changeNext .lower :: replacement fuel rest
    | none, c :: rest =>
      (if c.isDigit then ReplacementPart.group (c.toNat - '0'.toNat) else .text [c]) ::
        replacement fuel rest
    | none, [] => [.text ['\\']]
  | fuel + 1, c :: rest => .text [c] :: replacement fuel rest

/-- The flags of a substitution. -/
structure Flags where
  isGlobal : Bool
  prints : Bool
  number : Option Nat
  ignoresCase : Bool
  hasLines : Bool
  sink : Option EditSink

/-- Reads the flags of a substitution. -/
def flags : (fuel : Nat) → Flags → EditReading Flags
  | 0, f => return f
  | fuel + 1, f => do
    match ← nextNonblank with
    | none => return f
    | some c =>
      if c = '\n' || c = ';' then return f
      else if c = '\x7d' || c = '#' then
        putBack (some c)
        return f
      else if c = 'i' || c = 'I' then flags fuel { f with ignoresCase := true }
      else if c = 'm' || c = 'M' then flags fuel { f with hasLines := true }
      else if c = 'p' then
        if f.prints then refuse .manyPrints else flags fuel { f with prints := true }
      else if c = 'g' then
        if f.isGlobal then refuse .manyGlobals else flags fuel { f with isGlobal := true }
      else if c = 'w' then return { f with sink := some (← sink) }
      else if c.isDigit then
        if f.number.isSome then refuse .manyNumbers
        else
          putBack (some c)
          let n ← natural
          if n = 0 then refuse .zeroNumber else flags fuel { f with number := some n }
      else refuse .unknownFlag

/-- How many groups an expression has. -/
def groupCount : Regex → Nat
  | .group _ r => groupCount r + 1
  | .seq a b => groupCount a + groupCount b
  | .alt a b => groupCount a + groupCount b
  | .repeated _ _ r => groupCount r
  | _ => 0

/-- Reads a substitution. -/
def substitution : EditReading Substitution := do
  match ← next with
  | none => refuse .openSubstitution
  | some mark =>
    match ← upTo mark true with
    | none => refuse .openSubstitution
    | some found =>
      match ← upTo mark false with
      | none => refuse .openSubstitution
      | some put =>
        let f ← flags ((← get).rest.length + 1) ⟨false, false, none, false, false, none⟩
        let p ← pattern found f.ignoresCase f.hasLines
        let parts := replacement (put.length + 1) put
        let largest := parts.foldl (fun n (part : ReplacementPart) =>
          match part with
          | .group index => max n index
          | _ => n) 0
        match p.regex with
        | some r => if groupCount r < largest then refuse (.badReference largest)
        | none => pure ()
        return ⟨p, parts, f.isGlobal, f.number.getD 1, f.prints, f.sink⟩

/-- Reads characters and those in their place. -/
def transliteration : EditReading (List (Char × Char)) := do
  match ← next with
  | none => refuse .openTransliteration
  | some mark =>
    match ← upTo mark false with
    | none => refuse .openTransliteration
    | some found =>
      match ← upTo mark false with
      | none => refuse .openTransliteration
      | some put =>
        let found := plainText (found.length + 1) found
        let put := plainText (put.length + 1) put
        if found.length ≠ put.length then refuse .differentLengths
        endOfCommand
        return found.zip put

/-! ## Commands -/

/-- The version that scripts can ask for. -/
def version : List Nat := [4, 9]

/-- Whether a list of numbers comes no later than another one. -/
def isNoLater : List Nat → List Nat → Bool
  | [], _ => true
  | _ :: _, [] => false
  | a :: as, b :: bs => a < b || (a = b && isNoLater as bs)

/-- Whether some version is at hand. -/
def isAtHand (asked : Octets) : Bool :=
  let numbers := (Octets.partsAt '.' asked).map fun part => (Octets.natural? part).getD 0
  isNoLater numbers version

/-- The commands of one letter that only end a command. -/
def plainAction? : Char → Option EditAction
  | '=' => some .number
  | 'd' => some .delete
  | 'D' => some .deleteLine
  | 'F' => some .fileName
  | 'g' => some .take
  | 'G' => some .takeMore
  | 'h' => some .hold
  | 'H' => some .holdMore
  | 'n' => some .next
  | 'N' => some .nextMore
  | 'p' => some .print
  | 'P' => some .printLine
  | 'x' => some .exchange
  | 'z' => some .clear
  | _ => none

/-- Adds a command. -/
def add (g : EditGuard) (a : EditAction) : EditReading Unit :=
  modify fun c => { c with commands := ⟨g, a⟩ :: c.commands }

/-- Ends the innermost block. -/
def endBlock (g : EditGuard) : EditReading Unit := do
  match (← get).blocks with
  | [] => refuse .closedBlock
  | (start, _) :: blocks =>
    if g.first.isSome then refuse .blockEndAddress
    endOfCommand
    modify fun c =>
      let size := c.commands.length
      let commands := c.commands.reverse.zipIdx.map fun (command, k) =>
        if k = start then { command with action := EditAction.block size } else command
      { c with blocks := blocks, commands := commands.reverse }

/-- Reads a comment; the first one can say that the script is quiet. -/
def comment : EditReading Unit := do
  let c ← get
  let isFirst := c.origin = .argument 1 || c.commands.isEmpty
  let line ← takeWhile (· ≠ '\n')
  if isFirst && c.characters = 1 && c.line = 1 && line.head? = some 'n' then
    modify fun c => { c with isQuiet := true }

/-- Reads what a command with a guard does. -/
def action (g : EditGuard) (c : Char) : EditReading Unit := do
  match plainAction? c with
  | some a =>
    endOfCommand
    add g a
  | none =>
    match c with
    | '#' => if g.first.isSome then refuse .commentAddress else comment
    | '\x7b' =>
      let c ← get
      let fault := match c.origin with
        | .argument _ => c.origin.place 0 c.line
        | .file _ => c.origin.place c.characters c.line
      modify fun c => { c with
        blocks := (c.commands.length, fault ++ ": ".toList ++ EditFault.openBlock.text) :: c.blocks }
      add g (.block 0)
    | '\x7d' => endBlock g
    | ':' =>
      if g.first.isSome then refuse .labelAddress
      let name ← label
      if name.isEmpty then refuse .noLabel
      modify fun c => { c with labels := c.labels ++ [(name, c.commands.length)] }
    | 'a' => add g (.append (← text))
    | 'i' => add g (.insert (← text))
    | 'c' => add g (.change (← text))
    | 'b' => add g (.transfer .always (← label))
    | 't' => add g (.transfer .ifReplaced (← label))
    | 'T' => add g (.transfer .unlessReplaced (← label))
    | 'l' =>
      let width ← number?
      endOfCommand
      add g (.listing width)
    | 'r' => add g (.readFile (← fileName))
    | 'R' => add g (.readLine (← fileName))
    | 'w' => add g (.write (← sink))
    | 'W' => add g (.writeLine (← sink))
    | 's' => add g (.substitute (← substitution))
    | 'y' => add g (.transliterate (← transliteration))
    | 'v' => if !isAtHand (← label) then refuse .newerVersion
    | c =>
      if c = 'q' || c = 'Q' then
        if g.last.isSome then refuse .oneAddress
        let status ← number?
        endOfCommand
        add g (.quit (status.getD 0) (c = 'q'))
      else refuse (.unknownCommand c)

/-- Reads commands up to the end of a script. -/
def commands : (fuel : Nat) → EditReading Unit
  | 0 => pure ()
  | fuel + 1 => do
    let _ ← takeWhile fun c => isSpace c || c = ';'
    match ← next with
    | none => if ← nextSource then commands fuel
    | c =>
      let (g, c) ← guardFrom c
      match c with
      | none => refuse .missingCommand
      | some c =>
        action g c
        commands fuel

end Edit

/-- The script of some parts, or what is wrong with them. -/
def EditScript.read (isExtended : Bool) (sources : List EditSource) : Except Octets EditScript :=
  match sources with
  | [] => .ok ⟨#[], [], [], false⟩
  | s :: later => do
    let size := sources.foldl (fun n s => n + s.text.length + 1) 1
    let start : EditCursor :=
      { rest := s.text
        origin := s.origin
        characters := 0
        line := 1
        later := later
        isExtended := isExtended
        commands := []
        blocks := []
        labels := []
        files := []
        isQuiet := false }
    let (_, c) ← (Edit.commands size).run start
    match c.blocks with
    | (_, fault) :: _ => .error fault
    | [] => return ⟨c.commands.reverse.toArray, c.labels, c.files, c.isQuiet⟩

end Shell

end BenchCampaign
