import BenchCampaign.Shell.Utility.Options

/-!
# Paths

Programs that take paths apart, and that tell where they lead.

* `Utility.basename`, `Utility.dirname`.
* `Utility.pwd`, `Utility.realpath`, `Utility.readlink`, `Utility.which`.
* `Utility.mktemp`.
-/

namespace BenchCampaign

namespace Shell

namespace Utility

/-! ## Parts of paths -/

/-- A path without slashes at its end. -/
def withoutSlashes (p : Octets) : Octets := (p.reverse.dropWhile (· = '/')).reverse

/-- The last name of a path; that of the root is a slash. -/
def baseName (p : Octets) : Octets :=
  if !p.isEmpty && p.all (· = '/') then ['/']
  else ((Octets.partsAt '/' (withoutSlashes p)).getLast?).getD []

/-- A name without an ending, unless that is all of it. -/
def withoutEnding (ending name : Octets) : Octets :=
  if ending.length < name.length && ending.isSuffixOf name then
    name.take (name.length - ending.length)
  else name

/-- A path without its last name. -/
def directoryName (p : Octets) : Octets :=
  let above := withoutSlashes (((withoutSlashes p).reverse.dropWhile (· ≠ '/')).reverse)
  if above.isEmpty then (if p.head? = some '/' then ['/'] else ['.']) else above

/-- The last names of paths, without an ending. -/
def basename : Utility := fun arguments =>
  let known := (OptionSet.of "as:z" [("multiple", 'a'), ("suffix", 's'), ("zero", 'z')]).ordered
  Work.withOptions 1 known arguments fun o => do
    let tell := fun (ending p : Octets) =>
      Work.print (withoutEnding ending (baseName p) ++ [if o.has 'z' then '\x00' else '\n'])
    match o.operands with
    | [] => Work.usage 1 Work.missingOperand
    | operands =>
      if o.has 'a' || o.has 's' then
        for p in operands do tell ((o.value? 's').getD []) p
      else match operands with
        | [p] => tell [] p
        | [p, ending] => tell ending p
        | _ => Work.usage 1 (Work.extraOperand ((operands[2]?).getD []))

/-- Paths without their last names. -/
def dirname : Utility := fun arguments =>
  Work.withOptions 1 (OptionSet.of "z" [("zero", 'z')]).ordered arguments fun o => do
    if o.operands.isEmpty then Work.usage 1 Work.missingOperand
    for p in o.operands do
      Work.print (directoryName p ++ [if o.has 'z' then '\x00' else '\n'])

/-! ## Where paths lead -/

/-- The path of a location. -/
def pathOf (l : Location) : Octets := Octets.ofString ("/" ++ String.intercalate "/" l)

/-- Tells the directory that one works in. -/
def pwd : Utility := fun arguments =>
  Work.withOptions 1 (OptionSet.of "LP" [("logical", 'L'), ("physical", 'P')]) arguments fun o => do
    if !o.operands.isEmpty then Work.warn "ignoring non-option arguments".toList
    Work.printLine (pathOf (← get).host.directory)

/-- Where a path leads, of which only the last name may be missing. -/
def canonical (w : Work) (mustExist : Bool) (path : Octets) : Except PathFault Octets :=
  let found := if mustExist then w.host.resolve (Octets.toText path) else
    w.host.resolveNew (Octets.toText (if path.length = 1 then path else withoutSlashes path))
  found.map pathOf

/-- Tells where paths lead. -/
def realpath : Utility := fun arguments =>
  let known := OptionSet.of "emsqzLP" [("canonicalize-existing", 'e'), ("quiet", 'q'),
    ("no-symlinks", 's'), ("zero", 'z'), ("canonicalize-missing", 'm')]
  Work.withOptions 1 known arguments fun o => do
    if o.operands.isEmpty then Work.usage 1 Work.missingOperand
    for p in o.operands do
      match canonical (← get) (o.has 'e') p with
      | .ok path => Work.printLine path
      | .error fault =>
        if o.has 'q' then Work.setStatus 1
        else Work.complain 1 (p ++ [':', ' '] ++ fault.description.toList)

/-- Tells where links lead, or paths if an option asks for them. -/
def readlink : Utility := fun arguments =>
  Work.withOptions 1 (OptionSet.of "femnqsvz" [("canonicalize", 'f')]) arguments fun o => do
    if o.operands.isEmpty then Work.usage 1 Work.missingOperand
    for p in o.operands do
      match canonical (← get) (o.has 'e') p with
      | .ok path =>
        if o.has 'f' || o.has 'e' || o.has 'm' then
          if o.has 'n' then Work.print path else Work.printLine path
        else Work.setStatus 1
      | .error _ => Work.setStatus 1

/-- Tells where programs lie. -/
def which : Utility := fun arguments =>
  Work.withOptions 2 (OptionSet.of "as" []).ordered arguments fun o => do
    let w ← get
    let directories := Octets.partsAt ':' (((w.environment.find? fun v => v.1 = "PATH").map
      Prod.snd).getD [])
    for name in o.operands do
      let places := if name.contains '/' then [name]
        else directories.map fun d => (if d.isEmpty then ['.'] else d) ++ '/' :: name
      let found := places.filter fun p =>
        match w.host.file? (Octets.toText p) with
        | some f => f.isExecutable
        | none => false
      if found.isEmpty then Work.setStatus 1
      else if !o.has 's' then
        for p in if o.has 'a' then found else found.take 1 do Work.printLine p

/-! ## Names for files of no importance -/

/-- A name in which a number stands in for the last letters. -/
def numbered (template : Octets) (count n : Nat) : Octets :=
  let digits := Octets.ofNat n
  template.take (template.length - count) ++ List.replicate (count - digits.length) 'A' ++ digits

/-- Makes a file or directory with a new name. -/
def mktemp : Utility := fun arguments =>
  let known := OptionSet.of "dqup::t" [("directory", 'd'), ("dry-run", 'u'), ("quiet", 'q'),
    ("tmpdir", 'p')]
  Work.withOptions 1 known arguments fun o => do
    match o.operands with
    | _ :: _ :: _ => Work.usage 1 "too many templates".toList
    | operands =>
      let template := operands.head?.getD "tmp.XXXXXXXXXX".toList
      let count := (template.reverse.takeWhile (· = 'X')).length
      if count < 3 then
        Work.complain 1 ("too few X's in template ".toList ++ Work.quote template)
      else
        let w ← get
        let directory := match o.value? 'p' with
          | some [] => some "/tmp".toList
          | some d => some d
          | none => if operands.isEmpty || o.has 't' then some "/tmp".toList else none
        let template := (directory.map fun d => d ++ '/' :: template).getD template
        let names := (List.range 1000).map fun n => numbered template count (n + 1)
        let isNew := fun name => (w.host.entry? (Octets.toText name)).isNone
        match names.find? isNew with
        | none => Work.setStatus 1
        | some name =>
          match w.placeFor name with
          | .error fault =>
            Work.complain 1 ("failed to create ".toList ++
              (if o.has 'd' then "directory" else "file").toList ++ " via template ".toList ++
              Work.quote template ++ [':', ' '] ++ fault.description.toList)
          | .ok l =>
            if !o.has 'u' then
              Work.setTree (w.host.tree.put l
                (if o.has 'd' then .directory else .file ⟨0o600, .bytes []⟩))
            Work.printLine name

end Utility

end Shell

end BenchCampaign
