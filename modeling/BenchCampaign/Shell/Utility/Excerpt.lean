import BenchCampaign.Shell.CharacterClass
import BenchCampaign.Shell.Numeral
import BenchCampaign.Shell.Utility.Options

/-!
# Parts of text

Programs that write the beginning or the end of what they read, some fields of
every line, or only how much there is.

* `Utility.head`, `Utility.tail`, `Utility.cut`, `Utility.wc`.
-/

namespace BenchCampaign

namespace Shell

namespace Utility

open Work

/-! ## Beginnings and ends -/

/-- The factor of the letters behind a number. -/
def factor? (letters : String) : Option Nat :=
  match letters with
  | "" => some 1
  | "b" => some 512
  | "kB" => some 1000
  | "k" => some 1024
  | "K" => some 1024
  | "KiB" => some 1024
  | "MB" => some 1000000
  | "M" => some (1 <<< 20)
  | "MiB" => some (1 <<< 20)
  | "GB" => some 1000000000
  | "G" => some (1 <<< 30)
  | "GiB" => some (1 <<< 30)
  | _ => none

/-- A number with letters behind it that multiply it. -/
def scaledNumber? (cs : Octets) : Option Nat :=
  let digits := cs.takeWhile Char.isDigit
  (Octets.natural? digits).bind fun n =>
    (factor? (String.ofList (cs.drop digits.length))).map (n * ·)

/-- How much of a text is wanted. -/
inductive Amount where
  | first (n : Nat)
  | allButLast (n : Nat)
  | last (n : Nat)
  | from (n : Nat)
deriving DecidableEq, Repr

/-- The part of a list that is wanted. -/
def Amount.part {α : Type} (all : List α) : Amount → List α
  | first n => all.take n
  | allButLast n => all.take (all.length - n)
  | last n => all.drop (all.length - n)
  | .from n => all.drop (n - 1)

/-- The part of a text that is wanted, in lines or bytes. -/
def excerpt (inBytes : Bool) (a : Amount) (text : Octets) : Octets :=
  if inBytes then a.part text else (a.part (Octets.lines text)).flatten

/-- Reads an amount for the beginning of a text. -/
def headAmount? (cs : Octets) : Option Amount :=
  match cs with
  | '-' :: ds => (scaledNumber? ds).map .allButLast
  | '+' :: ds => (scaledNumber? ds).map .first
  | ds => (scaledNumber? ds).map .first

/-- Reads an amount for the end of a text. -/
def tailAmount? (cs : Octets) : Option Amount :=
  match cs with
  | '-' :: ds => (scaledNumber? ds).map .last
  | '+' :: ds => (scaledNumber? ds).map .from
  | ds => (scaledNumber? ds).map .last

/-- The name of what is read, above its part. -/
def heading (path : Octets) (isFirst : Bool) : Octets :=
  (if isFirst then [] else ['\n']) ++ "==> ".toList ++
    (if path = ['-'] then "standard input".toList else path) ++ " <==\n".toList

/-- Writes parts of all that is read; what a part leaves of the text that is there to be read
is left for others. -/
def writeParts (inBytes showsNames : Bool) (a : Amount) : (isFirst : Bool) → List Octets →
    StateM Work Unit
  | _, [] => pure ()
  | isFirst, path :: rest => do
    let before := (← get).input
    match ← read path with
    | .error fault =>
      if fault = PathFault.isDirectory.description then
        if showsNames then print (heading path isFirst)
        complain 1 ("error reading ".toList ++ quote path ++ [':', ' '] ++ fault.toList)
        writeParts inBytes showsNames a (isFirst && !showsNames) rest
      else
        complain 1 ("cannot open ".toList ++ quote path ++ " for reading: ".toList ++ fault.toList)
        writeParts inBytes showsNames a isFirst rest
    | .ok i =>
      if showsNames then print (heading path isFirst)
      match a, inBytes with
      | .first n, true =>
        let (cs, after) := i.take n
        print cs
        if path = ['-'] then leaveInput after
      | .first n, false =>
        let cs := excerpt false (.first n) i.text
        print cs
        if path = ['-'] then leaveInput (before.leaving (i.text.drop cs.length))
      | a, inBytes => print (excerpt inBytes a i.text)
      writeParts inBytes showsNames a false rest

/-- Arguments of which the first may be a number of lines. -/
def lineCount (arguments : List Octets) : List Octets :=
  match arguments with
  | ('-' :: d :: ds) :: rest =>
    if d.isDigit && ds.all Char.isDigit then ['-', 'n'] :: (d :: ds) :: rest else arguments
  | _ => arguments

/-- Writes the beginning of what is read. -/
def head : Utility := fun arguments =>
  let known := OptionSet.of "c:n:qvz" [("bytes", 'c'), ("lines", 'n'), ("quiet", 'q'),
    ("silent", 'q'), ("verbose", 'v')]
  let strange : Option Octets := match arguments with
    | ('-' :: d :: ds) :: _ => if d.isDigit then (ds.dropWhile Char.isDigit).head?.map ([·]) else none
    | _ => none
  match strange with
  | some letter => usage 1 ("invalid trailing option -- ".toList ++ letter)
  | none =>
    withOptions 1 known (lineCount arguments) fun o =>
      let inBytes := o.last? ['c', 'n'] = some 'c'
      let value := (o.value? (if inBytes then 'c' else 'n')).getD ['1', '0']
      match headAmount? value with
      | none =>
        complain 1 ((if inBytes then "invalid number of bytes: "
          else "invalid number of lines: ").toList ++ quote value)
      | some a =>
        let paths := sources o.operands
        let showsNames := o.last? ['q', 'v'] = some 'v' || (1 < paths.length && !o.has 'q')
        writeParts inBytes showsNames a true paths

/-- Writes the end of what is read. -/
def tail : Utility := fun arguments =>
  let known := OptionSet.of "c:n:fFqs:vz" [("bytes", 'c'), ("lines", 'n'), ("quiet", 'q'),
    ("silent", 'q'), ("verbose", 'v'), ("follow", 'f')]
  let strange : Option Char := match arguments with
    | ('-' :: d :: ds) :: _ => if d.isDigit && !ds.all Char.isDigit then some d else none
    | _ => none
  let arguments := match arguments with
    | ['+' :: d :: ds] => if d.isDigit then [['-', 'n'], '+' :: d :: ds] else arguments
    | ['+' :: d :: ds, path] => if d.isDigit then [['-', 'n'], '+' :: d :: ds, path] else arguments
    | arguments => lineCount arguments
  match strange with
  | some d => complain 1 ("option used in invalid context -- ".toList ++ [d])
  | none =>
    withOptions 1 known arguments fun o =>
      let inBytes := o.last? ['c', 'n'] = some 'c'
      let value := (o.value? (if inBytes then 'c' else 'n')).getD ['1', '0']
      match tailAmount? value with
      | none =>
        complain 1 ((if inBytes then "invalid number of bytes: "
          else "invalid number of lines: ").toList ++ quote value)
      | some a =>
        let paths := sources o.operands
        let showsNames := o.last? ['q', 'v'] = some 'v' || (1 < paths.length && !o.has 'q')
        writeParts inBytes showsNames a true paths

/-! ## Fields -/

/-- A range of positions, the last one of which may be open. -/
structure PositionRange where
  first : Nat
  last : Option Nat
deriving DecidableEq, Repr

/-- Whether a position is in a range. -/
def PositionRange.holds (k : Nat) (r : PositionRange) : Bool :=
  r.first ≤ k && (r.last.all fun n => k ≤ n)

/-- What is told of a position that is zero. -/
def zeroPosition (isField : Bool) : Octets :=
  (if isField then "fields are numbered from 1"
    else "byte/character positions are numbered from 1").toList

/-- The position that digits stand for, if there are any. -/
def positionOf (isField : Bool) (digits : Octets) : Except Octets (Option Nat) :=
  if (Numeral.ofDigits 10 digits) < UInt64.size then .ok (Octets.natural? digits)
  else
    .error ((if isField then "field number " else "byte/character offset ").toList ++
      Work.quote digits ++ " is too large".toList)

/-- The range of an item of a list: what stands in front of its hyphen, if it has one, and
its last number. -/
def itemRange (isField : Bool) (start : Option (Option Nat)) (number : Option Nat) :
    Except Octets PositionRange :=
  match start, number with
  | none, none | none, some 0 => .error (zeroPosition isField)
  | none, some n => .ok ⟨n, some n⟩
  | some none, none => .error "invalid range with no endpoint: -".toList
  | some first, none => .ok ⟨first.getD 1, none⟩
  | some first, some n =>
    if n < first.getD 1 then .error "invalid decreasing range".toList
    else .ok ⟨first.getD 1, some n⟩

/-- The ranges of a list from some place in it, where `start` and `digits` are what has been
read of an item: what stands in front of its hyphen, and the digits in front of the place. -/
def rangesFrom (isField : Bool) : (start : Option (Option Nat)) → (digits : Octets) → Octets →
    Except Octets (List PositionRange)
  | start, digits, [] => do
    let number ← positionOf isField digits
    return [← itemRange isField start number]
  | start, digits, c :: rest =>
    if c.isDigit then rangesFrom isField start (digits ++ [c]) rest
    else do
      let number ← positionOf isField digits
      if c = '-' then
        if start.isSome then
          .error (if isField then "invalid field range" else "invalid byte or character range").toList
        else if number = some 0 then .error (zeroPosition isField)
        else rangesFrom isField (some number) [] rest
      else if c = ',' || c = ' ' || c = '\t' then
        let range ← itemRange isField start number
        return range :: (← rangesFrom isField none [] rest)
      else
        .error ((if isField then "invalid field value "
          else "invalid byte/character position ").toList ++ Work.quote (c :: rest))

/-- The ranges of a list. -/
def rangesOf (isField : Bool) (list : Octets) : Except Octets (List PositionRange) :=
  rangesFrom isField none [] list

/-- The elements at chosen positions. -/
def chosen {α : Type} (isChosen : Nat → Bool) (xs : List α) : List α :=
  (xs.zipIdx.filter fun e => isChosen (e.2 + 1)).map Prod.fst

/-- Elements at chosen positions, in groups of those that one range holds. -/
def chosenRuns (isChosen : Nat → Bool) (starts : Nat → Bool) : (position : Nat) → Octets →
    List Octets
  | _, [] => []
  | k, c :: rest =>
    let more := chosenRuns isChosen starts (k + 1) rest
    if !isChosen k then more
    else if isChosen (k + 1) && !starts (k + 1) then
      match more with
      | run :: others => (c :: run) :: others
      | [] => [[c]]
    else [c] :: more

/-- What is wrong with options on their own, the first of them first: a delimiter that is
too long, or a second list. -/
def cutFault? : (hasList : Bool) → List (Char × Octets) → Option Octets
  | _, [] => none
  | hasList, (c, value) :: rest =>
    if c = 'd' && 1 < value.length then some "the delimiter must be a single character".toList
    else if ['b', 'c', 'f'].contains c then
      if hasList then some "only one list may be specified".toList else cutFault? true rest
    else cutFault? hasList rest

/-- Writes some fields or bytes of every line. -/
def cut : Utility := fun arguments =>
  let known := OptionSet.of "b:c:d:f:nszC:O:" [("bytes", 'b'), ("characters", 'c'),
    ("fields", 'f'), ("delimiter", 'd'), ("only-delimited", 's'), ("complement", 'C'),
    ("output-delimiter", 'O')]
  let known := { known with
    letters := known.letters.filter fun l => l.1 ≠ 'C' && l.1 ≠ 'O'
    names := known.names.map fun (n, c, v) => (n, c, if c = 'C' then .never else v) }
  withOptions 1 known arguments fun o =>
    let delimiter := (o.value? 'd').getD ['\t']
    match cutFault? false o.given, o.given.find? fun g => ['b', 'c', 'f'].contains g.1 with
    | some fault, _ => usage 1 fault
    | none, none => usage 1 "you must specify a list of bytes, characters, or fields".toList
    | none, some (kind, list) =>
      let isField := kind = 'f'
      if (o.value? 'd').isSome && !isField then
        usage 1 "an input delimiter may be specified only when operating on fields".toList
      else if o.has 's' && !isField then
        usage 1 ("suppressing non-delimited lines makes sense\n" ++
          "\tonly when operating on fields").toList
      else match rangesOf isField list with
        | .error fault => usage 1 fault
        | .ok ranges => do
          let isChosen := fun k => (ranges.any (·.holds k)) != o.has 'C'
          let d := delimiter.head?.getD '\x00'
          let between := (o.value? 'O').map fun v => if v.isEmpty then ['\x00'] else v
          let joint := between.getD delimiter
          let line := fun l : Octets =>
            if isField then
              if !l.contains d then (if o.has 's' then [] else l ++ ['\n'])
              else joint.intercalate (chosen isChosen (Octets.partsAt d l)) ++ ['\n']
            else
              match between with
              | none => chosen isChosen l ++ ['\n']
              | some joint =>
                let starts := fun k =>
                  ranges.any (·.first = k) && !ranges.any fun r => r.first < k && r.holds k
                joint.intercalate (chosenRuns isChosen starts 1 l) ++ ['\n']
          for path in sources o.operands do
            match ← readText? 1 path with
            | some text => print ((Octets.plainLines text).flatMap line)
            | none => pure ()

/-! ## Counts -/

/-- The words of a text. -/
def wordCount (text : Octets) : Nat :=
  (text.foldl (fun (count, inWord) c =>
    if CharacterClass.isSpace c then (count, false)
    else (if inWord then count else count + 1, true)) ((0 : Nat), false)).1

/-- How wide the widest line is. -/
def widestLine (text : Octets) : Nat :=
  let (widest, last) := text.foldl (fun ((widest, column) : Nat × Nat) c =>
    if c = '\n' || c = '\r' || c = '\x0c' then (max widest column, 0)
    else if c = '\t' then (widest, column + 8 - column % 8)
    else if CharacterClass.print.holds c then (widest, column + 1)
    else (widest, column)) (0, 0)
  max widest last

/-- How much of each kind there is in a text, for the kinds that are wanted. -/
def countsOf (wants : Char → Bool) (text : Octets) : List Nat :=
  (if wants 'l' then [text.count '\n'] else []) ++
  (if wants 'w' then [wordCount text] else []) ++
  (if wants 'm' then [text.length] else []) ++
  (if wants 'c' then [text.length] else []) ++
  (if wants 'L' then [widestLine text] else [])

/-- The size of the file at a path, if it is one, and whether anything is there. -/
def sizeAt (w : Work) (path : Octets) : Option Nat × Bool :=
  if path = ['-'] then (if w.input.isSeekable then (some w.input.text.length, true) else (none, true))
  else match w.host.entry? (Octets.toText path) with
    | some (.file f) => (some f.content.toBytes.length, true)
    | some _ => (none, true)
    | none => (none, false)

/-- How wide the columns of counts are. -/
def countWidth (w : Work) (paths : List Octets) (columns : Nat) : Nat :=
  if paths.length = 1 && columns = 1 then 1
  else
    let found := paths.map (sizeAt w)
    let total := (found.map fun e => e.1.getD 0).foldl (· + ·) 0
    let least := if found.any fun e => e.2 && e.1.isNone then 7 else 1
    max least (Octets.ofNat total).length

/-- Counts lines, words and bytes. -/
def wc : Utility := fun arguments =>
  let known := OptionSet.of "clLmw" [("bytes", 'c'), ("chars", 'm'), ("lines", 'l'),
    ("words", 'w'), ("max-line-length", 'L')]
  withOptions 1 known arguments fun o => do
    let wants := fun c => if o.given.isEmpty then ['l', 'w', 'c'].contains c else o.has c
    let paths := sources o.operands
    let columns := (['l', 'w', 'm', 'c', 'L'].filter wants).length
    let width := countWidth (← get) paths columns
    let line := fun (numbers : List Nat) (name : Octets) =>
      let cell := fun n : Nat =>
        let ds := Octets.ofNat n
        List.replicate (width - ds.length) ' ' ++ ds
      [' '].intercalate (numbers.map cell) ++ (if name.isEmpty then [] else ' ' :: name)
    let mut all : List (List Nat) := []
    for path in paths do
      match ← read path with
      | .ok i =>
        let numbers := countsOf wants i.text
        all := numbers :: all
        printLine (line numbers (if o.operands.isEmpty then [] else path))
      | .error fault =>
        complain 1 (path ++ [':', ' '] ++ fault.toList)
        if fault = PathFault.isDirectory.description then
          printLine (line (List.replicate columns 0) path)
    if 1 < paths.length then
      let combine := fun (sums numbers : List Nat) =>
        (List.range columns).map fun k =>
          let a := (sums[k]?).getD 0
          let b := (numbers[k]?).getD 0
          if wants 'L' && k + 1 = columns then max a b else a + b
      printLine (line (all.foldl combine (List.replicate columns 0)) "total".toList)

end Utility

end Shell

end BenchCampaign
