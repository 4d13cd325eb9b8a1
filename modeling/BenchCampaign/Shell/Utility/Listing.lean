import BenchCampaign.Shell.Format.Escape
import BenchCampaign.Shell.Utility.File

/-!
# Listing files

Programs that tell what lies in directories, and what is known of files.  All
files belong to one user, and are of one age.

* `Utility.ls`, `Utility.stat`.
-/

namespace BenchCampaign

namespace Shell

namespace Utility

/-! ## What is known of files -/

/-- Something that is listed. -/
structure Listed where
  /-- What it is called in the list. -/
  name : Octets
  location : Location
  entry : Entry
deriving Repr

namespace Listed

/-- Whether it is a directory. -/
def isDirectory (x : Listed) : Bool := x.entry == .directory

/-- How many bytes it holds; a directory takes a page. -/
def size (x : Listed) : Nat :=
  match x.entry with
  | .file f => f.content.toBytes.length
  | .directory => 4096
  | .device _ => 0

/-- How many thousands of bytes are set aside for it. -/
def blocks (x : Listed) : Nat := (x.size + 4095) / 4096 * 4

/-- Its permissions. -/
def mode (x : Listed) : Nat :=
  match x.entry with
  | .file f => f.mode
  | .directory => 0o755
  | .device _ => 0o666

/-- Its kind and its permissions, as they are shown. -/
def modeLetters (x : Listed) : Octets :=
  let kind := match x.entry with
    | .file _ => '-'
    | .directory => 'd'
    | .device _ => 'c'
  kind :: Permission.letters x.mode

/-- How many names lead to it. -/
def links (t : FileTree) (x : Listed) : Nat :=
  if x.isDirectory then
    2 + ((t.names x.location).filter fun n =>
      t.entry? (x.location ++ [n]) == some .directory).length
  else 1

/-- Whether it may be executed. -/
def isExecutable (x : Listed) : Bool := !x.isDirectory && x.mode &&& 0o111 ≠ 0

/-- The ending of a name, from its last point on. -/
def ending (x : Listed) : Octets :=
  let back := x.name.reverse.takeWhile (· ≠ '.')
  if back.length = x.name.length then [] else '.' :: back.reverse

end Listed

/-- A number of bytes in a short form. -/
def shortSize (n : Nat) : Octets :=
  go 8 n 1 ['K', 'M', 'G', 'T', 'P']
where
  /-- Tries one unit after the other. -/
  go : (fuel : Nat) → Nat → Nat → List Char → Octets
    | 0, n, _, _ => Octets.ofNat n
    | _, n, _, [] => Octets.ofNat n
    | fuel + 1, n, unit, letter :: rest =>
      if n < 1024 * unit then (if unit = 1 then Octets.ofNat n else [])
      else
        let next := unit * 1024
        let tenths := (n * 10 + next - 1) / next
        if tenths < 100 then Octets.ofNat (tenths / 10) ++ '.' :: Octets.ofNat (tenths % 10) ++ [letter]
        else
          let whole := (n + next - 1) / next
          if whole < 1024 then Octets.ofNat whole ++ [letter] else go fuel n next rest

/-! ## Lists -/

/-- A text with blanks in front up to a length. -/
def alignedRight (length : Nat) (cs : Octets) : Octets :=
  List.replicate (length - cs.length) ' ' ++ cs

/-- A text with blanks behind it up to a length. -/
def alignedLeft (length : Nat) (cs : Octets) : Octets :=
  cs ++ List.replicate (length - cs.length) ' '

/-- The greatest of some numbers. -/
def greatest (ns : List Nat) : Nat := ns.foldl max 0

/-- The name of something as a list shows it. -/
def shownName (o : Options) (x : Listed) : Octets :=
  let mark := if (o.has 'F' || o.has 'p') && x.isDirectory then ['/']
    else if o.has 'F' && x.isExecutable then ['*'] else []
  let name := if o.has 'Q' then '"' :: x.name ++ ['"'] else x.name
  name ++ mark

/-- The lines of a long list. -/
def longLines (o : Options) (t : FileTree) (xs : List Listed) : List Octets :=
  let linksOf := fun x : Listed => Octets.ofNat (x.links t)
  let sizeOf := fun x : Listed => match x.entry with
    | .device _ => "1, 3".toList
    | _ => if o.has 'h' then shortSize x.size else Octets.ofNat x.size
  let blocksOf := fun x : Listed => Octets.ofNat x.blocks
  let widest := fun (f : Listed → Octets) => greatest (xs.map fun x => (f x).length)
  let owner := if o.has 'n' then "0".toList else "root".toList
  xs.map fun x =>
    let front := if o.has 's' then [alignedRight (widest blocksOf) (blocksOf x)] else []
    let cells := front ++ [x.modeLetters, alignedRight (widest linksOf) (linksOf x)] ++
      (if o.has 'g' then [] else [owner]) ++ (if o.has 'o' then [] else [owner]) ++
      [alignedRight (widest sizeOf) (sizeOf x), "Jan  1 00:00".toList, shownName o x]
    [' '].intercalate cells

/-- How wide lists are. -/
def lineWidth (o : Options) : Nat :=
  (((o.value? 'w').bind Octets.natural?).map fun n => if n = 0 then 100000 else n).getD 80

/-- Names side by side, in as few rows as fit. -/
def columns (isAcross : Bool) (width : Nat) (names : List Octets) : List Octets :=
  let count := names.length
  let cellAt := fun (rows columns row column : Nat) =>
    names[if isAcross then row * columns + column else column * rows + row]?
  let widths := fun (columns : Nat) =>
    let rows := (count + columns - 1) / columns
    (List.range columns).map fun c =>
      greatest ((List.range rows).map fun r => ((cellAt rows columns r c).getD []).length) + 2
  let fits := fun (columns : Nat) => (widths columns).foldl (· + ·) 0 < width + 2
  let columns := ((List.range count).reverse.map (· + 1)).find? fits |>.getD 1
  let rows := (count + columns - 1) / columns
  (List.range rows).map fun r =>
    let cells := (List.range columns).filterMap fun c =>
      (cellAt rows columns r c).map fun cell => (cell, (widths columns)[c]?.getD 0)
    match cells.reverse with
    | [] => []
    | last :: front => front.reverse.flatMap (fun cell => alignedLeft cell.2 cell.1) ++ last.1

/-- Names with commas between them, on lines of some width. -/
def commaLines (width : Nat) (names : List Octets) : List Octets :=
  let (done, line) := names.foldl (fun ((done, line) : List Octets × Octets) name =>
    if line.isEmpty then (done, name)
    else if line.length + 2 + name.length < width then (done, line ++ [',', ' '] ++ name)
    else ((line ++ [',']) :: done, name)) ([], [])
  (if line.isEmpty then done else line :: done).reverse

/-- How a list is laid out: the last option for it counts, but one line for each name is no
layout for a long list. -/
def layoutLetter (o : Options) : Char :=
  let isLong := o.has 'g' || o.has 'o' || o.has 'n' || o.last? ['l', 'C', 'x', 'm'] = some 'l'
  if isLong then 'l' else (o.last? ['1', 'C', 'x', 'm']).getD '1'

/-- The lines of a list. -/
def listLines (o : Options) (t : FileTree) (xs : List Listed) : List Octets :=
  let withBlocks := fun x : Listed =>
    if o.has 's' then
      alignedRight (greatest (xs.map fun x => (Octets.ofNat x.blocks).length))
        (Octets.ofNat x.blocks) ++ ' ' :: shownName o x
    else shownName o x
  match layoutLetter o with
  | 'l' => longLines o t xs
  | 'C' => columns false (lineWidth o) (xs.map withBlocks)
  | 'x' => columns true (lineWidth o) (xs.map withBlocks)
  | 'm' => commaLines (lineWidth o) (xs.map withBlocks)
  | _ => xs.map withBlocks

/-- Things in the order in which they are listed. -/
def ordered (o : Options) (xs : List Listed) : List Listed :=
  if o.has 'U' || o.has 'f' then xs
  else
    let byName := xs.mergeSort fun a b => decide (String.ofList a.name ≤ String.ofList b.name)
    let sorted := if o.has 'S' then byName.mergeSort fun a b => decide (b.size ≤ a.size)
      else if o.has 'X' then
        byName.mergeSort fun a b => decide (String.ofList a.ending ≤ String.ofList b.ending)
      else byName
    if o.has 'r' then sorted.reverse else sorted

/-- What is listed of a directory. -/
def contents (o : Options) (t : FileTree) (l : Location) : List Listed :=
  let hidden := o.has 'a' || o.has 'f'
  let named := (t.names l).filterMap fun n => (t.entry? (l ++ [n])).map fun e =>
    (⟨Octets.ofString n, l ++ [n], e⟩ : Listed)
  let all := if hidden then
      ⟨['.'], l, .directory⟩ :: ⟨['.', '.'], l.dropLast, .directory⟩ :: named
    else if o.has 'A' then named
    else named.filter fun x => x.name.head? ≠ some '.'
  ordered o all

/-- The lines for a directory, in front of which the space that is set aside may be told. -/
def directoryLines (o : Options) (t : FileTree) (xs : List Listed) : List Octets :=
  let total := if layoutLetter o = 'l' || o.has 's' then
      ["total ".toList ++ (let n := (xs.map Listed.blocks).foldl (· + ·) 0
        if o.has 'h' then shortSize (n * 1024) else Octets.ofNat n)]
    else []
  total ++ listLines o t xs

/-- The parts of a list of directories: each with its lines. -/
def directoryParts (o : Options) (t : FileTree) : (depth : Nat) → Octets → Location →
    List (Octets × List Octets)
  | 0, _, _ => []
  | depth + 1, path, l =>
    let xs := contents o t l
    let inner := if !o.has 'R' then [] else
      (xs.filter fun x => x.isDirectory && x.name ≠ ['.'] && x.name ≠ ['.', '.']).flatMap fun x =>
        directoryParts o t depth
          (if path.getLast? = some '/' then path ++ x.name else path ++ '/' :: x.name) x.location
    (path, directoryLines o t xs) :: inner

/-- Lists files, and what lies in directories. -/
def ls : Utility := fun arguments =>
  let known := OptionSet.of "aAbBcCdDfFgGhHiklLmnNopqQrRsStuUvw:xXZ1" [("all", 'a'),
    ("almost-all", 'A'), ("directory", 'd'), ("classify", 'F'), ("recursive", 'R'),
    ("reverse", 'r'), ("human-readable", 'h'), ("size", 's'), ("color", 'G'), ("width", 'w'),
    ("quote-name", 'Q'), ("numeric-uid-gid", 'n')]
  let known := { known with names := known.names.map fun n =>
    if n.1 = "color" || n.1 = "classify" then (n.1, n.2.1, .maybe) else n }
  Work.withOptions 2 known arguments fun o => do
    let w ← get
    let t := w.host.tree
    let operands := if o.operands.isEmpty then [['.']] else o.operands
    let found ← operands.filterMapM fun p => do
      match w.place p with
      | .ok l => return (t.entry? l).map fun e => (⟨p, l, e⟩ : Listed)
      | .error fault =>
        Work.cannot "cannot access" p fault.description
        Work.setStatus 2
        return none
    let (directories, files) := (ordered o found).partition fun x => x.isDirectory && !o.has 'd'
    let fileLines := listLines o t files
    let parts := directories.flatMap fun x => directoryParts o t maxDepth x.name x.location
    let hasHeaders := 1 < operands.length || o.has 'R'
    let blocks := (if fileLines.isEmpty then [] else [fileLines]) ++ parts.map fun (path, lines) =>
      (if hasHeaders then [path ++ [':']] else []) ++ lines
    let shown := blocks.map fun lines => lines.flatMap (· ++ ['\n'])
    Work.print (['\n'].intercalate shown)

/-! ## What is known of a file -/

/-- What a letter behind a percent sign stands for. -/
def statText (t : FileTree) (x : Listed) (c : Char) : Octets :=
  match c with
  | 'n' => x.name
  | 's' => Octets.ofNat x.size
  | 'a' => Nat.toDigits 8 x.mode
  | 'A' => x.modeLetters
  | 'U' => "root".toList
  | 'G' => "root".toList
  | 'u' => ['0']
  | 'g' => ['0']
  | 'h' => Octets.ofNat (x.links t)
  | 'b' => Octets.ofNat (x.blocks * 2)
  | 'B' => "512".toList
  | 'F' =>
    (match x.entry with
      | .file f => if f.content.toBytes.isEmpty then "regular empty file" else "regular file"
      | .directory => "directory"
      | .device _ => "character special file").toList
  | '%' => ['%']
  | _ => ['?']

/-- A format with what is known of a file put in. -/
def statFormat (t : FileTree) (x : Listed) (escapes : Bool) : (fuel : Nat) → Octets → Octets
  | 0, _ => []
  | _, [] => []
  | fuel + 1, '%' :: c :: rest => statText t x c ++ statFormat t x escapes fuel rest
  | fuel + 1, '\\' :: rest =>
    if escapes then
      let (c, rest) := Escape.extended rest
      c :: statFormat t x escapes fuel rest
    else '\\' :: statFormat t x escapes fuel rest
  | fuel + 1, c :: rest => c :: statFormat t x escapes fuel rest

/-- Tells what is known of files. -/
def stat : Utility := fun arguments =>
  let known := OptionSet.of "c:fLtp:" [("format", 'c'), ("printf", 'p'), ("dereference", 'L'),
    ("terse", 't'), ("file-system", 'f')]
  Work.withOptions 1 known arguments fun o => do
    if o.operands.isEmpty then Work.usage 1 Work.missingOperand
    for p in o.operands do
      let w ← get
      match w.place p with
      | .error fault => Work.cannot "cannot statx" p fault.description
      | .ok l =>
        match w.host.tree.entry? l with
        | none => pure ()
        | some e =>
          let x : Listed := ⟨p, l, e⟩
          match o.value? 'p', o.value? 'c' with
          | some f, _ => Work.print (statFormat w.host.tree x true (f.length + 1) f)
          | none, some f => Work.printLine (statFormat w.host.tree x false (f.length + 1) f)
          | none, none => Work.printLine ("  File: ".toList ++ p)

end Utility

end Shell

end BenchCampaign
