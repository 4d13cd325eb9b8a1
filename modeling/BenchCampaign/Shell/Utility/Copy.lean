import BenchCampaign.Shell.Utility.File

/-!
# Putting files elsewhere

Programs that copy files, move them, and give them other names.  The last operand
says where: in a directory, or under a name.

* `Utility.cp`, `Utility.mv`, `Utility.ln`.
-/

namespace BenchCampaign

namespace Shell

namespace Utility

/-- A path for a name in a directory. -/
def pathIn (directory name : Octets) : Octets :=
  if directory.getLast? = some '/' then directory ++ name else directory ++ '/' :: name

/-- What lies at a location and below it, as it would lie at another one. -/
def transplanted (t : FileTree) (source target : Location) : List (Location × Entry) :=
  t.entries.filterMap fun e =>
    if source.isPrefixOf e.1 then some (target ++ e.1.drop source.length, e.2) else none

/-- Puts things at locations, in place of what lies there. -/
def putAll (t : FileTree) (es : List (Location × Entry)) : FileTree :=
  es.foldl (fun t e => t.put e.1 e.2) t

/-- Does something with each source and the path that it goes to; what is wrong with the
operands is told. -/
def withTargets (o : Options) (act : Octets → Octets → StateM Work Unit) : StateM Work Unit := do
  let w ← get
  let into := fun (directory : Octets) (sources : List Octets) => do
    for s in sources do act s (pathIn directory (baseName s))
  match o.value? 't', o.operands with
  | _, [] => Work.usage 1 "missing file operand".toList
  | some directory, sources =>
    if w.isDirectory directory then into directory sources
    else
      let fault := if (w.entryAt? directory).isSome then PathFault.notDirectory else .missing
      Work.complain 1 ("target directory ".toList ++ Work.quote directory ++ [':', ' '] ++
        fault.description.toList)
  | none, [only] =>
    Work.usage 1 ("missing destination file operand after ".toList ++ Work.quote only)
  | none, operands =>
    let target := (operands.getLast?).getD []
    let sources := operands.dropLast
    if o.has 'T' then
      match sources with
      | [s] => act s target
      | _ => Work.usage 1 (Work.extraOperand ((operands[2]?).getD []))
    else if w.isDirectory target then into target sources
    else match sources with
      | [s] => act s target
      | _ =>
        let fault := match w.place target with
          | .ok _ => PathFault.notDirectory
          | .error fault => fault
        Work.complain 1 ("target ".toList ++ Work.quote target ++ [':', ' '] ++
          fault.description.toList)

/-! ## Copying -/

/-- Tells what was put where. -/
def tellMove (lead : String) (source target : Octets) : StateM Work Unit :=
  Work.printLine (lead.toList ++ Work.quote source ++ " -> ".toList ++ Work.quote target)

/-- Copies a file to a path. -/
def copyFile (o : Options) (keepsMode : Bool) (source target : Octets) (f : RegularFile) :
    StateM Work Unit := do
  let w ← get
  match w.placeFor target with
  | .error fault =>
    let fault := if fault = .isDirectory then PathFault.notDirectory else fault
    Work.cannot "cannot create regular file" target fault.description
  | .ok l =>
    match w.host.tree.entry? l with
    | some .directory =>
      Work.complain 1 ("cannot overwrite directory ".toList ++ Work.quote target ++
        " with non-directory".toList)
    | some (.device _) => if o.has 'v' then tellMove "" source target
    | old =>
      let mode := match old, keepsMode with
        | some (.file g), false => g.mode
        | _, true => f.mode
        | _, false => f.mode &&& (0o7777 - w.mask % 0o1000)
      if o.has 'v' then tellMove "" source target
      Work.setTree (w.host.tree.put l (.file { f with mode := mode }))

/-- Copies what lies at a path to another one. -/
def copyTo (o : Options) (isRecursive keepsMode : Bool) : (depth : Nat) → Octets → Octets →
    StateM Work Unit
  | 0, _, _ => pure ()
  | depth + 1, source, target => do
    let w ← get
    match w.place source with
    | .error fault => Work.cannot "cannot stat" source fault.description
    | .ok l =>
      let old := w.place target
      match w.host.tree.entry? l with
      | some .directory =>
        if !isRecursive then
          Work.complain 1 ("-r not specified; omitting directory ".toList ++ Work.quote source)
        else match w.placeFor (withoutSlashes target) with
          | .error fault => Work.cannot "cannot create directory" target fault.description
          | .ok m =>
            let there := w.host.tree.entry? m
            if l.isPrefixOf m then
              Work.complain 1 ("cannot copy a directory, ".toList ++ Work.quote source ++
                ", into itself, ".toList ++ Work.quote target)
            else if there.isSome && there ≠ some .directory then
              Work.complain 1 ("cannot overwrite non-directory ".toList ++ Work.quote target ++
                " with directory ".toList ++ Work.quote source)
            else
              if there.isNone then
                Work.setTree (w.host.tree.put m .directory)
                if o.has 'v' then tellMove "" source target
              for n in w.host.tree.names l do
                let name := Octets.ofString n
                copyTo o isRecursive keepsMode depth (pathIn source name) (pathIn target name)
      | some (.file f) =>
        if o.has 'n' && old.isOk then pure ()
        else if (match old with | .ok m => m == l | .error _ => false) then
          Work.complain 1 (Work.quote source ++ " and ".toList ++ Work.quote target ++
            " are the same file".toList)
        else copyFile o keepsMode source target f
      | some (.device _) => copyFile o keepsMode source target ⟨0o666, .bytes []⟩
      | none => Work.cannot "cannot stat" source PathFault.missing.description

/-- Copies files. -/
def cp : Utility := fun arguments =>
  let known := OptionSet.of "abdfHilLnprst:uvxPRST" [("archive", 'a'), ("force", 'f'),
    ("interactive", 'i'), ("no-clobber", 'n'), ("recursive", 'r'), ("verbose", 'v'),
    ("target-directory", 't'), ("no-target-directory", 'T'), ("update", 'u')]
  Work.withOptions 1 known arguments fun o =>
    let isRecursive := o.has 'r' || o.has 'R' || o.has 'a'
    withTargets o (copyTo o isRecursive (o.has 'p' || o.has 'a') maxDepth)

/-! ## Moving -/

/-- Moves what lies at a path to another one. -/
def moveTo (o : Options) (source target : Octets) : StateM Work Unit := do
  let w ← get
  let cannotMove := fun (why : String) =>
    Work.complain 1 ("cannot move ".toList ++ Work.quote source ++ " to ".toList ++
      Work.quote target ++ [':', ' '] ++ why.toList)
  match w.place source with
  | .error fault => Work.cannot "cannot stat" source fault.description
  | .ok l =>
    let isDirectory := w.host.tree.entry? l == some .directory
    match w.placeFor (if isDirectory then withoutSlashes target else target) with
    | .error fault =>
      let fault := match w.placeFor (withoutSlashes target) with
        | .ok _ => PathFault.notDirectory
        | .error _ => fault
      cannotMove fault.description
    | .ok m =>
      let put := do
        let moved := transplanted w.host.tree l m
        let without : FileTree := ⟨w.host.tree.entries.filter fun e => !l.isPrefixOf e.1⟩
        Work.setTree (putAll without moved)
        if o.has 'v' then tellMove "renamed " source target
      match w.host.tree.entry? m with
      | none =>
        if isDirectory && l.isPrefixOf m then
          Work.complain 1 ("cannot move ".toList ++ Work.quote source ++
            " to a subdirectory of itself, ".toList ++ Work.quote target)
        else put
      | some there =>
        if o.has 'n' then pure ()
        else if l = m then
          Work.complain 1 (Work.quote source ++ " and ".toList ++ Work.quote target ++
            " are the same file".toList)
        else if isDirectory && l.isPrefixOf m then
          Work.complain 1 ("cannot move ".toList ++ Work.quote source ++
            " to a subdirectory of itself, ".toList ++ Work.quote target)
        else if isDirectory && there ≠ .directory then
          Work.complain 1 ("cannot overwrite non-directory ".toList ++ Work.quote target ++
            " with directory ".toList ++ Work.quote source)
        else if !isDirectory && there = .directory then
          Work.complain 1 ("cannot overwrite directory ".toList ++ Work.quote target ++
            " with non-directory".toList)
        else if there = .directory && !isVacant w.host.tree m then
          Work.cannot "cannot overwrite" target notEmpty
        else put

/-- Moves files. -/
def mv : Utility := fun arguments =>
  let known := OptionSet.of "bfint:uvST" [("force", 'f'), ("interactive", 'i'), ("no-clobber", 'n'),
    ("verbose", 'v'), ("target-directory", 't'), ("no-target-directory", 'T'), ("update", 'u')]
  Work.withOptions 1 known arguments fun o => withTargets o (moveTo o)

/-! ## Other names -/

/-- Gives a file another path. -/
def linkTo (o : Options) (source target : Octets) : StateM Work Unit := do
  let w ← get
  let isFirm := !o.has 's'
  let kind := if isFirm then "hard" else "symbolic"
  match w.place source with
  | .error fault =>
    if isFirm then Work.cannot "failed to access" source fault.description
  | .ok l =>
    if isFirm && w.host.tree.entry? l == some .directory then
      Work.complain 1 (source ++ ": hard link not allowed for directory".toList)
    else match w.placeFor target with
      | .error fault =>
        Work.cannot ("failed to create " ++ kind ++ " link") target fault.description
      | .ok m =>
        if (w.host.tree.entry? m).isSome && !o.has 'f' then
          Work.cannot ("failed to create " ++ kind ++ " link") target "File exists"
        else Work.setTree (putAll w.host.tree (transplanted w.host.tree l m))

/-- Gives files other paths. -/
def ln : Utility := fun arguments =>
  let known := OptionSet.of "bdfFiLnPrst:TvS" [("force", 'f'), ("symbolic", 's'),
    ("target-directory", 't'), ("no-target-directory", 'T'), ("verbose", 'v')]
  Work.withOptions 1 known arguments fun o =>
    match o.operands with
    | [only] => linkTo o only (pathIn ['.'] (baseName only))
    | _ => withTargets o (linkTo o)

end Utility

end Shell

end BenchCampaign
