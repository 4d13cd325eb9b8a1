import BenchCampaign.Shell.Utility.Options

/-!
# Whole lines

Programs that write the lines that they read, in another order or shape.

* `Utility.cat`, `Utility.tac`, `Utility.rev`, `Utility.nl`.
* `Utility.fold`, `Utility.expand`, `Utility.paste`, `Utility.tee`.
-/

namespace BenchCampaign

namespace Shell

namespace Utility

open Work

/-- A number, with blanks in front of it up to a width. -/
def rightAligned (width n : Nat) : Octets :=
  let ds := Octets.ofNat n
  List.replicate (width - ds.length) ' ' ++ ds

/-- The number of a whole text, if it is one of at least `least`. -/
def countOf? (least : Nat) (cs : Octets) : Option Nat :=
  (Octets.natural? cs).bind fun n => if least ≤ n then some n else none

/-! ## Writing what is read -/

/-- How lines are shown. -/
structure Display where
  numbersAll : Bool
  numbersFull : Bool
  squeezes : Bool
  showsEnds : Bool
  showsTabs : Bool
  showsOthers : Bool

/-- A character that leaves no mark of its own, by others that do. -/
def caret (c : Char) : Octets :=
  let low := fun c : Char =>
    if c = '\x7f' then ['^', '?']
    else if c < ' ' then ['^', Char.ofNat (c.toNat + 64)]
    else [c]
  if c.toNat < 128 then low c else 'M' :: '-' :: low (Char.ofNat (c.toNat - 128))

/-- A character as it is shown. -/
def Display.shown (d : Display) (c : Char) : Octets :=
  if c = '\t' then (if d.showsTabs then ['^', 'I'] else ['\t'])
  else if d.showsOthers then caret c
  else [c]

/-- What is known of the lines that were shown. -/
structure Shown where
  number : Nat
  /-- Whether the last line was empty. -/
  wasEmpty : Bool
  isInLine : Bool

/-- A line as it is shown. -/
def Display.line (d : Display) (line : Octets) (s : Shown) : Octets × Shown :=
  let text := line.withoutLineFeed
  let hasEnd := text.length ≠ line.length
  let isEmpty := text.isEmpty && !s.isInLine
  if isEmpty && d.squeezes && s.wasEmpty then ([], s)
  else
    let isNumbered := !s.isInLine && (d.numbersFull && !isEmpty || d.numbersAll && !d.numbersFull)
    let number := if isNumbered then s.number + 1 else s.number
    let lead := if isNumbered then rightAligned 6 number ++ ['\t'] else []
    let lineEnd := if hasEnd then (if d.showsEnds then ['$', '\n'] else ['\n']) else []
    (lead ++ text.flatMap d.shown ++ lineEnd, ⟨number, isEmpty, !hasEnd⟩)

/-- Lines as they are shown. -/
def Display.lines (d : Display) : List Octets → Shown → List Octets × Shown
  | [], s => ([], s)
  | line :: rest, s =>
    let (cs, s) := d.line line s
    let (more, s) := d.lines rest s
    (cs :: more, s)

/-- Shows all that is read. -/
def showAll (d : Display) : List Octets → Shown → StateM Work Unit
  | [], _ => pure ()
  | path :: rest, s => do
    match ← readText? 1 path with
    | none =>
      if path = ['-'] && ((← get).input.fault?).isSome then
        complain 1 ("closing standard input: ".toList ++
          ((← get).input.fault?.getD "").toList)
      showAll d rest s
    | some text =>
      let (ls, s) := d.lines (Octets.lines text) s
      print ls.flatten
      showAll d rest s

/-- Writes what is read. -/
def cat : Utility := fun arguments =>
  let known := OptionSet.of "benstuvAET" [("number-nonblank", 'b'), ("number", 'n'),
    ("squeeze-blank", 's'), ("show-nonprinting", 'v'), ("show-ends", 'E'), ("show-tabs", 'T'),
    ("show-all", 'A')]
  withOptions 1 known arguments fun o =>
    let d : Display := {
      numbersAll := o.has 'n'
      numbersFull := o.has 'b'
      squeezes := o.has 's'
      showsEnds := ['E', 'e', 'A'].any o.has
      showsTabs := ['T', 't', 'A'].any o.has
      showsOthers := ['v', 'e', 't', 'A'].any o.has }
    showAll d (sources o.operands) ⟨0, false, false⟩

/-- Writes lines from the last one to the first. -/
def tac : Utility := fun arguments =>
  withOptions 1 (OptionSet.of "bs:r" []) arguments fun o =>
    (sources o.operands).forM fun path => do
      match ← read path with
      | .ok i => print (Octets.lines i.text).reverse.flatten
      | .error fault =>
        complain 1 ((if fault = PathFault.isDirectory.description then quoted path ": read error: "
          else "failed to open ".toList ++ quoted path " for reading: ") ++ fault.toList)
where
  /-- A path in quotation marks, and what stands behind it. -/
  quoted (path : Octets) (text : String) : Octets := quote path ++ text.toList

/-- Writes every line from its end to its beginning. -/
def rev : Utility := fun arguments =>
  (sources arguments).forM fun path => do
    match ← read path with
    | .ok i =>
      print ((Octets.lines i.text).flatMap fun line =>
        let text := line.withoutLineFeed
        text.reverse ++ line.drop text.length)
    | .error fault =>
      complain 1 ("cannot open ".toList ++ path ++ [':', ' '] ++ fault.toList)

/-! ## Numbers and widths -/

/-- How lines are numbered. -/
structure Numbering where
  numbersAll : Bool
  numbersNone : Bool
  width : Nat
  step : Nat
  separator : Octets
  /-- How numbers stand in their column. -/
  alignment : Octets

/-- Lines with their numbers. -/
def Numbering.lines (n : Numbering) : Nat → List Octets → List Octets
  | _, [] => []
  | k, line :: rest =>
    if n.numbersNone || (line.isEmpty && !n.numbersAll) then
      (List.replicate (n.width + n.separator.length) ' ' ++ line ++ ['\n']) :: n.lines k rest
    else
      let ds := Octets.ofNat k
      let pad := fun c => List.replicate (n.width - ds.length) c
      let number := match String.ofList n.alignment with
        | "ln" => ds ++ pad ' '
        | "rz" => pad '0' ++ ds
        | _ => pad ' ' ++ ds
      (number ++ n.separator ++ line ++ ['\n']) :: n.lines (k + n.step) rest

/-- Numbers lines. -/
def nl : Utility := fun arguments =>
  let known := OptionSet.of "b:d:f:h:i:l:n:ps:v:w:" [("body-numbering", 'b'),
    ("number-width", 'w'), ("number-separator", 's'), ("starting-line-number", 'v'),
    ("line-increment", 'i'), ("number-format", 'n')]
  withOptions 1 known arguments fun o => do
    let number := fun c d => ((o.value? c).bind Octets.natural?).getD d
    let n : Numbering := {
      numbersAll := o.value? 'b' = some ['a']
      numbersNone := o.value? 'b' = some ['n']
      width := number 'w' 6
      step := number 'i' 1
      separator := (o.value? 's').getD ['\t']
      alignment := (o.value? 'n').getD "rn".toList }
    let text ← wholeText 1 o.operands
    print (n.lines (number 'v' 1) (Octets.plainLines text)).flatten

/-- The pieces of a line that are at most so wide; `atBlanks` if a piece rather ends behind a
blank. -/
def foldLine (width : Nat) (atBlanks : Bool) : (fuel : Nat) → Octets → List Octets
  | 0, line => [line]
  | fuel + 1, line =>
    if line.length ≤ width then [line]
    else
      let front := line.take width
      let blank := (front.reverse.dropWhile fun c => c ≠ ' ' && c ≠ '\t').reverse
      let piece := if atBlanks && !blank.isEmpty then blank else front
      piece :: foldLine width atBlanks fuel (line.drop piece.length)

/-- Breaks lines that are too wide. -/
def fold : Utility := fun arguments =>
  let arguments := arguments.map fun a =>
    match a with
    | '-' :: d :: ds => if d.isDigit then '-' :: 'w' :: d :: ds else a
    | a => a
  withOptions 1 (OptionSet.of "bsw:" [("width", 'w'), ("spaces", 's'), ("bytes", 'b')]) arguments
    fun o =>
      match countOf? 1 ((o.value? 'w').getD ['8', '0']) with
      | none => complain 1 ("invalid number of columns: ".toList ++ quote ((o.value? 'w').getD []))
      | some width => do
        let text ← wholeText 1 o.operands
        print ((Octets.lines text).flatMap fun line =>
          let body := line.withoutLineFeed
          ['\n'].intercalate (foldLine width (o.has 's') body.length body) ++
            line.drop body.length)

/-- A line with blanks in place of tabs. -/
def expandLine (stop : Nat) : (column : Nat) → Octets → Octets
  | _, [] => []
  | column, c :: rest =>
    if c = '\t' then
      let n := stop - column % stop
      List.replicate n ' ' ++ expandLine stop (column + n) rest
    else c :: expandLine stop (if c = '\n' then 0 else column + 1) rest

/-- Writes blanks in place of tabs. -/
def expand : Utility := fun arguments =>
  withOptions 1 (OptionSet.of "it:" [("tabs", 't'), ("initial", 'i')]) arguments fun o => do
    let text ← wholeText 1 o.operands
    print (expandLine (((o.value? 't').bind (countOf? 1)).getD 8) 0 text)

/-! ## Side by side -/

/-- The separators of a list, of which backslashes may hide some. -/
def separatorList : Octets → List Octets
  | '\\' :: 'n' :: rest => ['\n'] :: separatorList rest
  | '\\' :: 't' :: rest => ['\t'] :: separatorList rest
  | '\\' :: '0' :: rest => [] :: separatorList rest
  | '\\' :: '\\' :: rest => ['\\'] :: separatorList rest
  | c :: rest => [c] :: separatorList rest
  | [] => []

/-- Texts with separators between them, again from the first one where there are no more. -/
def separated (separators : List Octets) (texts : List Octets) : Octets :=
  (texts.zipIdx.flatMap fun (t, k) =>
    (if k = 0 then [] else (separators[(k - 1) % max 1 separators.length]?).getD []) ++ t)

/-- Columns as rows, as long as any has something. -/
def rows : (fuel : Nat) → List (List Octets) → List (List Octets)
  | 0, _ => []
  | fuel + 1, columns =>
    if columns.all List.isEmpty then []
    else columns.map (fun c => c.head?.getD []) :: rows fuel (columns.map (·.drop 1))

/-- The lines for every operand; hyphens take lines in turn from what is there to be read. -/
def pasteColumns (operands : List Octets) (sources : List (Octets × List Octets)) :
    List (List Octets) :=
  let shared := operands.count ['-']
  (sources.zipIdx.map fun ((path, ls), k) =>
    if path = ['-'] && 1 < shared then
      let turn := (operands.take k).count ['-']
      (ls.zipIdx.filter fun e => e.2 % shared = turn).map Prod.fst
    else ls)

/-- Writes lines side by side. -/
def paste : Utility := fun arguments =>
  withOptions 1 (OptionSet.of "d:sz" [("delimiters", 'd'), ("serial", 's')]) arguments fun o => do
    let separators := separatorList ((o.value? 'd').getD ['\t'])
    let operands := sources o.operands
    let input := (← get).input.text
    let mut found : List (Octets × List Octets) := []
    let mut isWhole := true
    for path in operands do
      if isWhole then
        match ← readText? 1 path with
        | some text =>
          let text := if path = ['-'] then input else text
          found := (path, Octets.plainLines text) :: found
        | none => isWhole := false
    if isWhole || o.has 's' then
      let columns := found.reverse
      if o.has 's' then
        print (columns.flatMap fun c => separated separators c.2 ++ ['\n'])
      else
        let columns := pasteColumns operands columns
        let size := (columns.map List.length).foldl max 0
        print ((rows size columns).flatMap fun r => separated separators r ++ ['\n'])

/-! ## Copies -/

/-- Writes what is read, and also to files. -/
def tee : Utility := fun arguments =>
  withOptions 1 (OptionSet.of "aip" [("append", 'a'), ("ignore-interrupts", 'i')]) arguments
    fun o => do
      let text := (← takeInput).text
      for path in o.operands do
        let w ← get
        match w.placeFor path with
        | .error fault => complain 1 (path ++ [':', ' '] ++ fault.description.toList)
        | .ok l =>
          match w.host.tree.entry? l with
          | some .directory =>
            complain 1 (path ++ [':', ' '] ++ PathFault.isDirectory.description.toList)
          | some (.device _) => pure ()
          | some (.file f) =>
            let old := if o.has 'a' then f.content.toBytes else []
            setTree (w.host.tree.put l
              (.file { f with content := .bytes (old ++ Octets.toBytes text) }))
          | none =>
            setTree (w.host.tree.put l (.file ⟨w.newMode, .bytes (Octets.toBytes text)⟩))
      print text

end Utility

end Shell

end BenchCampaign
