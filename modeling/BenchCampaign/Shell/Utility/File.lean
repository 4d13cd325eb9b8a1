import BenchCampaign.Shell.Format.Quantity
import BenchCampaign.Shell.Permission
import BenchCampaign.Shell.Utility.Path

/-!
# Making and removing files

Programs that make files and directories, remove them, and change what may be
done with them.

* `Utility.touch`, `Utility.mkdir`.
* `Utility.rm`, `Utility.rmdir`.
* `Utility.chmod`.
-/

namespace BenchCampaign

namespace Shell

namespace Work

/-- Where a path leads. -/
def place (w : Work) (path : Octets) : Except PathFault Location :=
  w.host.resolve (Octets.toText path)

/-- What lies at a path. -/
def entryAt? (w : Work) (path : Octets) : Option Entry := w.host.entry? (Octets.toText path)

/-- Whether a directory lies at a path. -/
def isDirectory (w : Work) (path : Octets) : Bool := w.entryAt? path == some .directory

/-- Tells what cannot be done with a path, and why. -/
def cannot (what : String) (path : Octets) (why : String) : StateM Work Unit :=
  complain 1 (what.toList ++ [' '] ++ quote path ++ [':', ' '] ++ why.toList)

end Work

namespace Utility

/-! ## Making -/

/-- Makes an empty file at a path where there is none. -/
def touchOne (makes : Bool) (p : Octets) : StateM Work Unit := do
  let w ← get
  match w.place p with
  | .ok _ => pure ()
  | .error .missing =>
    if makes then
      match w.placeFor p with
      | .ok l => Work.setTree (w.host.tree.put l (.file ⟨w.newMode, .bytes []⟩))
      | .error fault =>
        let isDirectoryName := 1 < p.length && p.getLast? = some '/'
        Work.cannot (if isDirectoryName then "setting times of" else "cannot touch") p
          fault.description
  | .error fault => Work.cannot "cannot touch" p fault.description

/-- Makes empty files where there are none. -/
def touch : Utility := fun arguments =>
  let known := OptionSet.of "acd:fhmr:t:" [("no-create", 'c'), ("date", 'd'), ("reference", 'r'),
    ("no-dereference", 'h')]
  Work.withOptions 1 known arguments fun o => do
    let w ← get
    match (o.value? 'r').filter fun r => (w.entryAt? r).isNone with
    | some r => Work.cannot "failed to get attributes of" r PathFault.missing.description
    | none =>
      if o.operands.isEmpty then Work.usage 1 "missing file operand".toList
      for p in o.operands do touchOne (!o.has 'c') p

/-- The paths of directories that lead to a path, the outermost one first. -/
def directoriesTo (p : Octets) : List Octets :=
  let ends := (List.range (p.length + 1)).filter fun k =>
    0 < k && (p[k]?).all (· = '/') && p[k - 1]? ≠ some '/'
  ends.map p.take

/-- Makes a directory at a path. -/
def makeDirectory (isTold : Bool) (p : Octets) : StateM Work Unit := do
  let w ← get
  let fails := fun (fault : String) => Work.cannot "cannot create directory" p fault
  match w.place p with
  | .ok _ => fails "File exists"
  | .error .missing =>
    match w.placeFor (if p.isEmpty then p else withoutSlashes p) with
    | .ok l =>
      Work.setTree (w.host.tree.put l .directory)
      if isTold then Work.printLine ("mkdir: created directory ".toList ++ Work.quote p)
    | .error fault => fails fault.description
  | .error fault => fails fault.description

/-- Makes a directory at a path and those that lead to it, where there are none. -/
def makeDirectories (isTold : Bool) : List Octets → StateM Work Unit
  | [] => pure ()
  | p :: rest => do
    let w ← get
    match w.entryAt? p with
    | some .directory => makeDirectories isTold rest
    | some _ =>
      Work.cannot "cannot create directory" p
        (if rest.isEmpty then "File exists" else PathFault.notDirectory.description)
    | none =>
      makeDirectory (isTold && baseName p ≠ ['.']) p
      if (← get).isDirectory p then makeDirectories isTold rest

/-- Makes directories. -/
def mkdir : Utility := fun arguments =>
  let known := OptionSet.of "m:pvZ" [("mode", 'm'), ("parents", 'p'), ("verbose", 'v')]
  Work.withOptions 1 known arguments fun o => do
    if o.operands.isEmpty then Work.usage 1 Work.missingOperand
    else match (o.value? 'm').filter fun m => (Permission.changed? 0 true m 0o777).isNone with
      | some m => Work.complain 1 ("invalid mode ".toList ++ Work.quote m)
      | none =>
        for p in o.operands do
          if o.has 'p' && !p.isEmpty then makeDirectories (o.has 'v') (directoriesTo p)
          else makeDirectory (o.has 'v') p

/-! ## Removing -/

/-- Whether nothing lies in a directory. -/
def isVacant (t : FileTree) (l : Location) : Bool := (t.names l).isEmpty

/-- What a directory that holds something is called. -/
def notEmpty : String := "Directory not empty"

/-- Removes the directory at a path, if nothing lies in it. -/
def removeDirectory (isTold ignores : Bool) (p : Octets) : StateM Work Bool := do
  let w ← get
  if isTold then Work.printLine ("rmdir: removing directory, ".toList ++ Work.quote p)
  let fails := fun (why : String) => do
    Work.cannot "failed to remove" p why
    return false
  match w.place p with
  | .error fault => fails fault.description
  | .ok l =>
    if !w.isDirectory p then fails PathFault.notDirectory.description
    else if isVacant w.host.tree l then
      Work.setTree (w.host.tree.remove l)
      return true
    else if ignores then return false
    else fails notEmpty

/-- Removes empty directories. -/
def rmdir : Utility := fun arguments =>
  let known := OptionSet.of "pvI" [("parents", 'p'), ("verbose", 'v'),
    ("ignore-fail-on-non-empty", 'I')]
  Work.withOptions 1 known arguments fun o => do
    if o.operands.isEmpty then Work.usage 1 Work.missingOperand
    for p in o.operands do
      let all := if o.has 'p' then (directoriesTo (withoutSlashes p)).reverse else [p]
      let _ ← all.foldlM (fun (goesOn : Bool) d =>
        if goesOn then removeDirectory (o.has 'v') (o.has 'I') d else pure false) true

/-- The paths of what lies at a location and below it, what lies inside of a directory in
front of it. -/
def pathsWithin (t : FileTree) : (depth : Nat) → Octets → Location → List (Octets × Location)
  | 0, _, _ => []
  | depth + 1, path, l =>
    let names := if t.entry? l == some .directory then
      (t.names l).mergeSort fun a b => decide (a ≤ b) else []
    (names.flatMap fun n =>
      let inner := if path.getLast? = some '/' then path ++ Octets.ofString n
        else path ++ '/' :: Octets.ofString n
      pathsWithin t depth inner (l ++ [n])) ++ [(path, l)]

/-- How deep directories are looked into. -/
def maxDepth : Nat := 100

/-- Removes what lies at a path, and tells it. -/
def removeAt (isTold : Bool) (path : Octets) (l : Location) : StateM Work Unit := do
  let w ← get
  let isDirectory := w.host.tree.entry? l == some .directory
  Work.setTree (w.host.tree.remove l)
  if isTold then
    Work.printLine ((if isDirectory then "removed directory " else "removed ").toList ++
      Work.quote path)

/-- Removes what lies at a path. -/
def removeOne (o : Options) (p : Octets) : StateM Work Unit := do
  let w ← get
  let isRecursive := o.has 'r' || o.has 'R'
  let isTold := o.has 'v'
  let fails := fun (why : String) => Work.cannot "cannot remove" p why
  let name := baseName p
  if isRecursive && (name = ['.'] || name = ['.', '.']) then
    Work.complain 1 ("refusing to remove '.' or '..' directory: skipping ".toList ++ Work.quote p)
  else if isRecursive && name = ['/'] then
    Work.complain 1 ("it is dangerous to operate recursively on ".toList ++ Work.quote p)
    Work.complain 1 "use --no-preserve-root to override this failsafe".toList
  else match w.place p with
    | .error fault =>
      if !(o.has 'f' && (fault = .missing || fault = .notDirectory)) then fails fault.description
    | .ok l =>
      if w.host.tree.entry? l ≠ some .directory then removeAt isTold p l
      else if isRecursive then
        for (path, inner) in pathsWithin w.host.tree maxDepth p l do removeAt isTold path inner
      else if !o.has 'd' then fails PathFault.isDirectory.description
      else if isVacant w.host.tree l then removeAt isTold p l
      else fails notEmpty

/-- Removes files. -/
def rm : Utility := fun arguments =>
  let known := OptionSet.of "dfirvIR" [("force", 'f'), ("recursive", 'r'), ("verbose", 'v'),
    ("dir", 'd')]
  Work.withOptions 1 known arguments fun o => do
    if o.operands.isEmpty && !o.has 'f' then Work.usage 1 Work.missingOperand
    for p in o.operands do removeOne o p

/-! ## Permissions -/

/-- Permissions in digits and letters. -/
def modeText (mode : Nat) : Octets :=
  Quantity.padded 4 (Numeral.ofDigits 10 (Nat.toDigits 8 mode)) ++ " (".toList ++
    Permission.letters mode ++ [')']

/-- Changes the permissions of the file at a location. -/
def changeMode (o : Options) (isOption : Bool) (text path : Octets) (l : Location) :
    StateM Work Unit := do
  let w ← get
  match w.host.tree.entry? l with
  | some (.file f) =>
    let new := (Permission.changed? w.mask false text f.mode).getD f.mode
    Work.setTree (w.host.tree.put l (.file { f with mode := new }))
    if o.has 'v' || o.has 'c' && new ≠ f.mode then
      let lead := "mode of ".toList ++ Work.quote path
      Work.printLine (if new = f.mode then lead ++ " retained as ".toList ++ modeText new
        else lead ++ " changed from ".toList ++ modeText f.mode ++ " to ".toList ++ modeText new)
    let expected := (Permission.changed? 0 false text f.mode).getD new
    if isOption && new &&& (0o7777 - expected) ≠ 0 then
      Work.complain 1 (path ++ ": new permissions are ".toList ++ Permission.letters new ++
        ", not ".toList ++ Permission.letters expected)
  | _ => pure ()

/-- Whether an argument asks for permissions, though it looks like an option. -/
def asksForMode (a : Octets) : Bool :=
  match a with
  | '-' :: c :: _ => "rwxXstugoa,+=01234567".toList.contains c
  | _ => false

/-- Changes permissions. -/
def chmod : Utility := fun arguments =>
  let known := OptionSet.of "Rcfv" [("recursive", 'R'), ("changes", 'c'), ("quiet", 'f'),
    ("silent", 'f'), ("verbose", 'v'), ("reference", 'r')]
  let known := { known with names := known.names.map fun n =>
    if n.1 = "reference" then (n.1, n.2.1, .always) else n }
  let front := arguments.takeWhile (· ≠ ['-', '-'])
  let asked := front.find? asksForMode
  let others := (front.filter fun a => !asksForMode a) ++ arguments.drop front.length
  Work.withOptions 1 known others fun o => do
    let w ← get
    let reference := (o.value? 'r').map fun r => w.entryAt? r
    let referenceText := reference.map fun e => match e with
      | some (.file f) => Nat.toDigits 8 f.mode
      | _ => "755".toList
    let (text, operands) := match asked.or referenceText with
      | some text => (some text, o.operands)
      | none => (o.operands.head?, o.operands.drop 1)
    match text, operands with
    | none, _ => Work.usage 1 Work.missingOperand
    | some text, [] => Work.usage 1 (Work.missingOperandAfter text)
    | some text, operands =>
      if (Permission.changed? 0 false text 0).isNone then
        Work.usage 1 ("invalid mode: ".toList ++ Work.quote text)
      else
        for p in operands do
          let w ← get
          match w.place p with
          | .error fault =>
            if o.has 'f' then Work.setStatus 1 else Work.cannot "cannot access" p fault.description
          | .ok l =>
            let all := if o.has 'R' then (pathsWithin w.host.tree maxDepth p l).reverse else [(p, l)]
            for (path, l) in all do changeMode o asked.isSome text path l

end Utility

end Shell

end BenchCampaign
