import BenchCampaign.Shell.CharacterClass
import BenchCampaign.Shell.Format.Quantity
import BenchCampaign.Shell.Utility.Options

/-!
# Lines in order

Programs that put lines into an order, or that look at lines that are in one.
Lines are compared by keys, parts of them that are looked at as text, as numbers
or as names of months; lines whose keys are equal are compared as a whole.

* `Utility.sort`, `Utility.uniq`, `Utility.comm`.
-/

namespace BenchCampaign

namespace Shell

/-- What a key is looked at as. -/
inductive KeyKind where
  | text
  | number
  | quantity
  | sized
  | month
  | version
deriving DecidableEq, Repr

/-- How a key is compared. -/
structure KeyOrder where
  kind : KeyKind
  skipsBlanks : Bool
  skipsBlanksAtEnd : Bool
  foldsCase : Bool
  onlyWords : Bool
  onlyPrinted : Bool
  isReversed : Bool
deriving DecidableEq, Repr

namespace KeyOrder

/-- Plain text. -/
def plain : KeyOrder := ⟨.text, false, false, false, false, false, false⟩

/-- With a letter. -/
def add (o : KeyOrder) (isEnd : Bool) (c : Char) : Option KeyOrder :=
  match c with
  | 'n' => some { o with kind := .number }
  | 'g' => some { o with kind := .quantity }
  | 'h' => some { o with kind := .sized }
  | 'M' => some { o with kind := .month }
  | 'V' => some { o with kind := .version }
  | 'b' => some (if isEnd then { o with skipsBlanksAtEnd := true } else
      { o with skipsBlanks := true })
  | 'f' => some { o with foldsCase := true }
  | 'd' => some { o with onlyWords := true }
  | 'i' => some { o with onlyPrinted := true }
  | 'r' => some { o with isReversed := true }
  | _ => none

/-- With letters. -/
def addAll (o : KeyOrder) (isEnd : Bool) (cs : Octets) : Option KeyOrder :=
  cs.foldl (fun o c => o.bind fun o => o.add isEnd c) (some o)

/-! ## Comparing -/

/-- The order of texts by their bytes. -/
def compareText : Octets → Octets → Ordering
  | [], [] => .eq
  | [], _ => .lt
  | _, [] => .gt
  | a :: as, b :: bs => if a = b then compareText as bs else if a < b then .lt else .gt

/-- A number that a text begins with: its sign, and its parts around the point. -/
structure LeadingNumber where
  isNegative : Bool
  whole : Nat
  fraction : Octets
deriving DecidableEq, Repr

/-- The number that a text begins with, behind blanks, and what follows. -/
def leadingNumber (text : Octets) : LeadingNumber × Octets :=
  let text := text.dropWhile fun c => c = ' ' || c = '\t' || c = '\n'
  let (isNegative, text) := match text with
    | '-' :: rest => (true, rest)
    | rest => (false, rest)
  let whole := text.takeWhile Char.isDigit
  let rest := text.drop whole.length
  let (fraction, rest) := match rest with
    | '.' :: more =>
      let ds := more.takeWhile Char.isDigit
      (ds, more.drop ds.length)
    | more => ([], more)
  (⟨isNegative, Numeral.ofDigits 10 whole, (fraction.reverse.dropWhile (· = '0')).reverse⟩, rest)

/-- Whether a number is zero. -/
def LeadingNumber.isZero (n : LeadingNumber) : Bool := n.whole = 0 && n.fraction.isEmpty

/-- The order of two numbers without their signs. -/
def compareSize (a b : LeadingNumber) : Ordering :=
  (compare a.whole b.whole).then (compareText a.fraction b.fraction)

/-- The order of two numbers, where `size` compares those of one sign. -/
def compareSigned (a b : LeadingNumber) (size : Ordering) : Ordering :=
  let isBelow := fun n : LeadingNumber => n.isNegative && !n.isZero
  match isBelow a, isBelow b with
  | true, true => size.swap
  | true, false => .lt
  | false, true => .gt
  | false, false => size

/-- The place of a letter for a power among those letters. -/
def powerOf : Octets → Nat
  | c :: _ => if c = 'k' then 1 else "KMGTPEZYRQ".toList.idxOf c + 1 |> fun k => if k > 10 then 0 else k
  | [] => 0

/-- The order of two quantities; what is none comes first. -/
def compareQuantity (a b : Octets) : Ordering :=
  let place : Octets → Nat × Option (Bool × Nat × Nat) := fun cs =>
    match Quantity.leading? cs with
    | none => (0, none)
    | some (.nan _, _) => (1, none)
    | some (.infinite true, _) => (2, none)
    | some (.infinite false, _) => (4, none)
    | some (.finite negative num den, _) => (3, some (negative && num ≠ 0, num, den))
  match place a, place b with
  | (_, some (na, m, d)), (_, some (nb, n, e)) =>
    let sizes := compare (m * e) (n * d)
    match na, nb with
    | true, true => sizes.swap
    | true, false => .lt
    | false, true => .gt
    | false, false => sizes
  | (i, _), (j, _) => compare i j

/-- The number of a month that a text begins with, and zero for none. -/
def monthOf (text : Octets) : Nat :=
  let name := String.ofList (((text.dropWhile fun c => c = ' ' || c = '\t').take 3).map Char.toUpper)
  let k := ["JAN", "FEB", "MAR", "APR", "MAY", "JUN", "JUL", "AUG", "SEP", "OCT", "NOV",
    "DEC"].idxOf name
  if k < 12 then k + 1 else 0

/-- The place of a character between numbers of versions. -/
def versionRank (c : Char) : Nat :=
  if c = '~' then 0 else if c.isAlpha then c.toNat + 1 else c.toNat + 256

/-- The order of texts in which numbers count as a whole. -/
def compareVersion : (fuel : Nat) → Octets → Octets → Ordering
  | 0, _, _ => .eq
  | fuel + 1, a, b =>
    let wordA := a.takeWhile fun c => !c.isDigit
    let wordB := b.takeWhile fun c => !c.isDigit
    let words := compareRanks (wordA.map versionRank) (wordB.map versionRank)
    if words ≠ .eq then words
    else
      let a := a.drop wordA.length
      let b := b.drop wordB.length
      let numberA := a.takeWhile Char.isDigit
      let numberB := b.takeWhile Char.isDigit
      let numbers := compare (Numeral.ofDigits 10 numberA) (Numeral.ofDigits 10 numberB)
      if numbers ≠ .eq || (a.isEmpty && b.isEmpty) then numbers
      else compareVersion fuel (a.drop numberA.length) (b.drop numberB.length)
where
  /-- The order of two rows of ranks; the end of a row comes behind a tilde only. -/
  compareRanks : List Nat → List Nat → Ordering
    | [], [] => .eq
    | [], r :: _ => if r = 0 then .gt else .lt
    | r :: _, [] => if r = 0 then .lt else .gt
    | r :: rs, t :: ts => if r = t then compareRanks rs ts else compare r t

/-- A text as it is compared. -/
def prepared (o : KeyOrder) (cs : Octets) : Octets :=
  let cs := if o.onlyWords then
      cs.filter fun c => c.isAlphanum || c = ' ' || c = '\t'
    else if o.onlyPrinted then cs.filter CharacterClass.print.holds else cs
  if o.foldsCase then cs.map Char.toUpper else cs

/-- The order of two keys. -/
def compareKeys (o : KeyOrder) (a b : Octets) : Ordering :=
  let order := match o.kind with
    | .text => compareText (o.prepared a) (o.prepared b)
    | .number =>
      let m := (leadingNumber a).1
      let n := (leadingNumber b).1
      compareSigned m n (compareSize m n)
    | .sized =>
      let (m, restA) := leadingNumber a
      let (n, restB) := leadingNumber b
      let power := fun (k : LeadingNumber) rest => if k.isZero then 0 else powerOf rest
      compareSigned m n ((compare (power m restA) (power n restB)).then (compareSize m n))
    | .quantity => compareQuantity a b
    | .month => compare (monthOf a) (monthOf b)
    | .version => compareVersion (a.length + b.length + 1) a b
  if o.isReversed then order.swap else order

end KeyOrder

/-! ## Keys -/

/-- A place in a line: a field, and a character in it. -/
structure KeyPlace where
  field : Nat
  character : Nat
deriving DecidableEq, Repr

/-- A part of a line by which lines are compared. -/
structure SortKey where
  start : KeyPlace
  stop : Option KeyPlace
  order : KeyOrder
deriving DecidableEq, Repr

namespace SortKey

/-- Whether a character separates fields where none is named for it. -/
def isBlank (c : Char) : Bool := c = ' ' || c = '\t'

/-- The fields of a line, each with its place in it; `separator` stands between them, or
else each begins with blanks. -/
def fields (separator : Option Char) : (fuel : Nat) → Octets → List Octets
  | 0, _ => []
  | fuel + 1, line =>
    match separator with
    | some d => Octets.partsAt d line
    | none =>
      let blanks := line.takeWhile isBlank
      let word := (line.drop blanks.length).takeWhile fun c => !isBlank c
      let field := blanks ++ word
      if field.isEmpty then [] else field :: fields none fuel (line.drop field.length)

/-- How many characters stand in front of a field. -/
def offset (separator : Option Char) (fs : List Octets) (k : Nat) : Nat :=
  let width := if separator.isSome then 1 else 0
  ((fs.take k).map fun f => f.length + width).foldl (· + ·) 0

/-- The part of a line that is a key. -/
def part (separator : Option Char) (key : SortKey) (line : Octets) : Octets :=
  let fs := fields separator (line.length + 1) line
  let blanksAt := fun n => ((line.drop n).takeWhile isBlank).length
  let first := min line.length (offset separator fs (key.start.field - 1))
  let first := if key.order.skipsBlanks then first + blanksAt first else first
  let first := first + (key.start.character - 1)
  let stop := match key.stop with
    | none => line.length
    | some p =>
      if p.character = 0 then
        let all := offset separator fs p.field
        if separator.isSome && p.field ≤ fs.length && 0 < p.field then all - 1 else all
      else
        let base := min line.length (offset separator fs (p.field - 1))
        let base := if key.order.skipsBlanksAtEnd then base + blanksAt base else base
        base + p.character
  let stop := min stop line.length
  (line.take stop).drop first

/-- A place of a key that a text begins with, and what follows, or what is wrong. -/
def place (isStop : Bool) (whole text : Octets) : Except Octets (KeyPlace × Octets) :=
  let digits := text.takeWhile Char.isDigit
  match Octets.natural? digits with
  | none =>
    .error ((if isStop then "invalid number after ','" else "invalid number at field start").toList ++
      ": invalid count at start of ".toList ++ Work.quote text)
  | some 0 => .error ("field number is zero: invalid field specification ".toList ++ Work.quote whole)
  | some field =>
    match text.drop digits.length with
    | '.' :: rest =>
      let more := rest.takeWhile Char.isDigit
      match Octets.natural? more with
      | none =>
        .error ("invalid number after '.': invalid count at start of ".toList ++ Work.quote rest)
      | some 0 =>
        if isStop then .ok (⟨field, 0⟩, rest.drop more.length)
        else .error ("character offset is zero: invalid field specification ".toList ++
          Work.quote whole)
      | some n => .ok (⟨field, n⟩, rest.drop more.length)
    | rest => .ok (⟨field, if isStop then 0 else 1⟩, rest)

/-- The key of a text, or what is wrong with it; without letters it has the order `base`. -/
def read (base : KeyOrder) (text : Octets) : Except Octets SortKey := do
  let (start, rest) ← place false text text
  let letters := rest.takeWhile fun c => c ≠ ','
  let rest := rest.drop letters.length
  let bad := fun _ : Unit => "stray character in field spec: invalid field specification ".toList ++
    Work.quote text
  let (stop, more) ← match rest with
    | ',' :: rest => do
      let (p, rest) ← place true text rest
      pure (some p, rest)
    | _ => pure (none, [])
  let own := (KeyOrder.plain.addAll false letters).bind fun o => o.addAll true more
  match own with
  | none => .error (bad ())
  | some o => return ⟨start, stop, if letters.isEmpty && more.isEmpty then base else o⟩

end SortKey

namespace Utility

open Work

/-! ## Sorting -/

/-- The order of two lines by keys, and then as a whole. -/
def compareLines (separator : Option Char) (keys : List SortKey) (base : KeyOrder)
    (isStable : Bool) (a b : Octets) : Ordering :=
  let byKeys := if keys.isEmpty then base.compareKeys (trim a) (trim b)
    else keys.foldl (fun found key =>
      found.then (key.order.compareKeys (key.part separator a) (key.part separator b))) .eq
  let whole := KeyOrder.compareText a b
  byKeys.then (if isStable then .eq else if base.isReversed then whole.swap else whole)
where
  /-- A line without the blanks that do not count. -/
  trim (line : Octets) : Octets :=
    if base.skipsBlanks then line.dropWhile SortKey.isBlank else line

/-- Lines without those that compare equal to the one before them. -/
def withoutEquals (same : Octets → Octets → Bool) : List Octets → List Octets
  | a :: b :: rest =>
    if same a b then withoutEquals same (a :: rest) else a :: withoutEquals same (b :: rest)
  | ls => ls
termination_by ls => ls.length

/-- The first line that stands behind one that should follow it, and its number. -/
def firstDisorder (isWrong : Octets → Octets → Bool) : (number : Nat) → List Octets →
    Option (Nat × Octets)
  | k, a :: b :: rest =>
    if isWrong a b then some (k + 1, b) else firstDisorder isWrong (k + 1) (b :: rest)
  | _, _ => none

/-- The orders of the keys, or what is wrong with one. -/
def sortKeys (base : KeyOrder) (o : Options) : Except Octets (List SortKey) :=
  (o.values 'k').mapM (SortKey.read base)

/-- Puts lines into order. -/
def sort : Utility := fun arguments =>
  let known := OptionSet.of "bcCdfghik:mMno:rsS:t:T:uVz" [("reverse", 'r'), ("numeric-sort", 'n'),
    ("unique", 'u'), ("key", 'k'), ("field-separator", 't'), ("output", 'o'), ("stable", 's'),
    ("ignore-case", 'f'), ("ignore-leading-blanks", 'b'), ("version-sort", 'V'),
    ("human-numeric-sort", 'h'), ("general-numeric-sort", 'g'), ("month-sort", 'M'),
    ("dictionary-order", 'd'), ("ignore-nonprinting", 'i'), ("check", 'c')]
  withOptions 2 known arguments fun o => do
    let letters := (o.given.map Prod.fst).filter fun c => "bdfghiMnrV".toList.contains c
    let base := (KeyOrder.plain.addAll false letters).getD .plain
    match sortKeys base o, o.value? 't' with
    | .error fault, _ => complain 2 fault
    | _, some [] => complain 2 "empty tab".toList
    | _, some (_ :: _ :: _) =>
      if o.value? 't' = some ['\\', '0'] then complain 2 "multi-character tab '\\\\0'".toList
      else complain 2 ("multi-character tab ".toList ++ quote ((o.value? 't').getD []))
    | .ok keys, separator =>
      let separator := separator.bind List.head?
      let order := compareLines separator keys base (o.has 's' || o.has 'u')
      let mut parts : List Octets := []
      for path in sources o.operands do
        if (← get).status = 0 then
          match ← read path with
          | .ok i => parts := i.text :: parts
          | .error fault =>
            let isThere := fault = PathFault.isDirectory.description
            complain 2 ((if isThere then "read failed: " else "cannot read: ").toList ++ path ++
              [':', ' '] ++ fault.toList)
      if (← get).status = 0 then
        let ls := parts.reverse.flatMap Octets.plainLines
        if o.has 'c' || o.has 'C' then
          let isWrong := fun a b => match order a b with
            | .gt => true
            | .eq => o.has 'u'
            | .lt => false
          match firstDisorder isWrong 1 ls with
          | none => pure ()
          | some (k, line) =>
            let name := if o.operands.isEmpty then ['-'] else o.operands.head?.getD []
            if o.has 'c' then
              warn (name ++ ':' :: Octets.ofNat k ++ ": disorder: ".toList ++ line)
            setStatus 1
        else
          let sorted := ls.mergeSort fun a b => order a b != .gt
          let sorted := if o.has 'u' then withoutEquals (fun a b => order a b == .eq) sorted
            else sorted
          let text := sorted.flatMap fun l => l ++ ['\n']
          match o.value? 'o' with
          | none => print text
          | some path => writeFile path text
where
  /-- Writes a file. -/
  writeFile (path text : Octets) : StateM Work Unit := do
    let w ← get
    match w.host.write (Octets.toText path) (Octets.toBytes text) with
    | .ok h => set { w with host := h }
    | .error fault => complain 2 ("open failed: ".toList ++ path ++ [':', ' '] ++
        fault.description.toList)

/-! ## Repetitions -/

/-- Lines that follow each other and are the same. -/
def groups (same : Octets → Octets → Bool) : List Octets → List (List Octets)
  | [] => []
  | line :: rest =>
    match groups same rest with
    | (a :: as) :: others =>
      if same line a then (line :: a :: as) :: others else [line] :: (a :: as) :: others
    | others => [line] :: others

/-- A line without some of its first fields and characters. -/
def skipped (fields characters : Nat) (line : Octets) : Octets :=
  let skip := fun cs : Octets =>
    let cs := cs.dropWhile SortKey.isBlank
    cs.dropWhile fun c => !SortKey.isBlank c
  ((List.range fields).foldl (fun cs _ => skip cs) line).drop characters

/-- Writes lines that are repeated once only. -/
def uniq : Utility := fun arguments =>
  let known := OptionSet.of "cdDuif:s:w:z" [("count", 'c'), ("repeated", 'd'), ("unique", 'u'),
    ("ignore-case", 'i'), ("skip-fields", 'f'), ("skip-chars", 's'), ("check-chars", 'w')]
  withOptions 1 known arguments fun o =>
    let number := fun c => ((o.value? c).bind Octets.natural?)
    let view := fun line =>
      let cs := skipped ((number 'f').getD 0) ((number 's').getD 0) line
      let cs := match number 'w' with
        | some n => cs.take n
        | none => cs
      if o.has 'i' then cs.map Char.toLower else cs
    match o.operands with
    | _ :: _ :: three :: _ => usage 1 (extraOperand three)
    | operands => do
      match ← readText? 1 (operands.head?.getD ['-']) with
      | none => pure ()
      | some text =>
        let found := groups (fun a b => view a == view b) (Octets.plainLines text)
        let shown := found.filter fun g =>
          (!o.has 'd' && !o.has 'D' || 1 < g.length) && (!o.has 'u' || g.length = 1)
        let lead := fun g : List Octets => if o.has 'c' then rightAligned g.length else []
        let text := shown.flatMap fun g =>
          (if o.has 'D' then g else g.take 1).flatMap fun l => lead g ++ l ++ ['\n']
        match operands with
        | [_, path] => do
          let w ← get
          match w.host.write (Octets.toText path) (Octets.toBytes text) with
          | .ok h => set { w with host := h }
          | .error fault => complain 1 (path ++ [':', ' '] ++ fault.description.toList)
        | _ => print text
where
  /-- How often a line is repeated, in a column. -/
  rightAligned (n : Nat) : Octets :=
    let ds := Octets.ofNat n
    List.replicate (7 - ds.length) ' ' ++ ds ++ [' ']

/-- The lines of two sorted texts: only of the first, only of the second, of both. -/
def merged : (fuel : Nat) → List Octets → List Octets → List (Nat × Octets)
  | 0, _, _ => []
  | _, [], bs => bs.map fun b => (2, b)
  | _, as, [] => as.map fun a => (1, a)
  | fuel + 1, a :: as, b :: bs =>
    match KeyOrder.compareText a b with
    | .eq => (3, a) :: merged fuel as bs
    | .lt => (1, a) :: merged fuel as (b :: bs)
    | .gt => (2, b) :: merged fuel (a :: as) bs

/-- Compares two sorted texts line by line. -/
def comm : Utility := fun arguments =>
  withOptions 1 (OptionSet.of "123z" []) arguments fun o =>
    match o.operands with
    | [] => usage 1 missingOperand
    | [one] => usage 1 (missingOperandAfter one)
    | _ :: _ :: three :: _ => usage 1 (extraOperand three)
    | [one, two] => do
      match ← readText? 1 one with
      | none => pure ()
      | some first =>
        match ← readText? 1 two with
        | none => pure ()
        | some second =>
          let as := Octets.plainLines first
          let bs := Octets.plainLines second
          let shows := fun k : Nat => !o.has (Char.ofNat ('0'.toNat + k))
          let lead := fun k : Nat =>
            List.replicate (((List.range k).filter fun j => 0 < j && shows j).length) '\t'
          print ((merged (as.length + bs.length + 1) as bs).flatMap fun e =>
            if shows e.1 then lead e.1 ++ e.2 ++ ['\n'] else [])

end Utility

end Shell

end BenchCampaign
