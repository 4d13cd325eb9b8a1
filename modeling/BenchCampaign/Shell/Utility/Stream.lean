import BenchCampaign.Shell.Edit.Run
import BenchCampaign.Shell.Utility.File

/-!
# Editing streams

A program that runs a script of edits for the lines of files, and writes the
result, or puts it in place of the files.

* `Utility.sed`.
-/

namespace BenchCampaign

namespace Shell

namespace Utility

namespace Sed

/-! ## Arguments -/

/-- The options of the program. -/
def options : OptionSet :=
  OptionSet.of "nEri::sue:f:l:z"
    [("quiet", 'n'), ("silent", 'n'), ("regexp-extended", 'E'), ("in-place", 'i'), ("separate", 's'),
      ("unbuffered", 'u'), ("expression", 'e'), ("file", 'f'), ("line-length", 'l'), ("null-data", 'z'),
      ("posix", 'u'), ("sandbox", 'u'), ("follow-symlinks", 'u')]

/-- How the program is to be used. -/
def usageText : Octets :=
  "Usage: sed [OPTION]... \x7bscript-only-if-no-other-script\x7d [input-file]...\n".toList

/-- Tells how the program is to be used. -/
def usage : StateM Work Unit := do
  Work.write 2 usageText
  Work.setStatus 1

/-- The parts of the script that options give, of which the first is the `number`th
argument; none if one cannot be read, which is told. -/
def sources : (number : Nat) → List (Char × Octets) → StateM Work (Option (List EditSource))
  | _, [] => return some []
  | number, ('e', text) :: rest => do
    return (← sources (number + 1) rest).map fun ss => ⟨.argument number, text⟩ :: ss
  | number, ('f', path) :: rest => do
    match ← Work.read path with
    | .ok i => return (← sources number rest).map fun ss => ⟨.file path, i.text⟩ :: ss
    | .error fault =>
      Work.complain 4 ("couldn't open file ".toList ++ path ++ ": ".toList ++ fault.toList)
      return none
  | number, _ :: rest => sources number rest

/-! ## Files -/

/-- The lines of a text that a delimiter ends. -/
def linesOf (delimiter : Char) (file text : Octets) : List EditInput :=
  let parts := Octets.partsAt delimiter text
  let whole := parts.dropLast.map fun part => (⟨⟨part, true⟩, file⟩ : EditInput)
  match parts.getLast? with
  | some (c :: cs) => whole ++ [⟨⟨c :: cs, false⟩, file⟩]
  | _ => whole

/-- Puts bytes in a file, which is made if there is none; tells whether that can be done. -/
def store (path content : Octets) : StateM Work (Option String) := do
  let w ← get
  match w.placeFor path with
  | .error fault => return some fault.description
  | .ok l =>
    match w.host.tree.entry? l with
    | some .directory => return some PathFault.isDirectory.description
    | some (.device _) => return none
    | some (.file f) =>
      Work.setTree (w.host.tree.put l (.file { f with content := .bytes (Octets.toBytes content) }))
      return none
    | none =>
      Work.setTree (w.host.tree.put l (.file ⟨w.newMode, .bytes (Octets.toBytes content)⟩))
      return none

/-- Empties the files that a script writes; tells whether all can be written. -/
def openSinks : List Octets → StateM Work Bool
  | [] => return true
  | path :: rest => do
    match ← store path [] with
    | none => openSinks rest
    | some fault =>
      Work.complain 4 ("couldn't open file ".toList ++ path ++ ": ".toList ++ fault.toList)
      return false

/-- The name for a copy of a file as it was: with a suffix, or with its name in place of each
asterisk. -/
def backupPath (path suffix : Octets) : Octets :=
  let name := baseName path
  let folder := path.take (path.length - name.length)
  let copy := if suffix.contains '*' then suffix.flatMap fun c => if c = '*' then name else [c]
    else name ++ suffix
  if copy.contains '/' then copy else folder ++ copy

/-! ## Running -/

/-- Writes what a script has written to descriptors. -/
def deliver (isInPlace : Bool) (parts : List (EditStream × Octets)) : StateM Work Unit := do
  for (stream, cs) in parts do
    match stream with
    | .result => if !isInPlace then Work.print cs
    | .sink (.descriptor n) => Work.write n cs
    | .sink (.file _) => pure ()

/-- Puts what a script has written to files in them. -/
def deliverToFiles (files : List Octets) (parts : List (EditStream × Octets)) :
    StateM Work Unit := do
  for path in files do
    let content := parts.flatMap fun (stream, cs) =>
      if stream = .sink (.file path) then cs else []
    let _ ← store path content

/-- What has been reached in files. -/
structure Reached where
  state : EditState
  /-- All that was written, the last part first. -/
  written : List (EditStream × Octets)
  /-- The status, if the script ended early. -/
  status : Option Nat

/-- Runs a script for the lines of a unit: of a file, or of all files. -/
def runUnit (e : EditSetting) (isInPlace : Bool) (inputs : List EditInput) (r : Reached) :
    Reached × Octets :=
  let before := if isInPlace then
    { r.state with unended := r.state.unended.filter (· ≠ EditStream.result) } else r.state
  let (after, status) := { before with written := [] }.run e inputs
  let result := after.written.reverse.flatMap fun (stream, cs) =>
    if stream = .result then cs else []
  (⟨after, after.written ++ r.written, status⟩, result)

/-- The lines of some files, up to one that cannot be read further; what is wrong is told. -/
def readAll (delimiter : Char) : List Octets → StateM Work (List (List EditInput))
  | [] => return []
  | path :: rest => do
    match ← Work.read path with
    | .ok i => return linesOf delimiter path i.text :: (← readAll delimiter rest)
    | .error fault =>
      if fault = PathFault.isDirectory.description then
        Work.complain 4 ("read error on ".toList ++ path ++ ": ".toList ++ fault.toList)
        return []
      else
        Work.complain 2 ("can't read ".toList ++ path ++ ": ".toList ++ fault.toList)
        readAll delimiter rest

/-- Runs a script for a file, and puts the result in its place. -/
def runInPlace (e : EditSetting) (suffix : Octets) (r : Reached) (path : Octets) :
    StateM Work Reached := do
  let w ← get
  if r.status.isSome || r.state.fault.isSome then return r
  else match w.place path, w.entryAt? path with
  | .ok l, some (.file f) =>
    let text := Octets.ofBytes f.content.toBytes
    let (after, result) := runUnit e true (linesOf e.delimiter path text) r
    if !suffix.isEmpty then
      let _ ← store (backupPath path suffix) text
    let w ← get
    Work.setTree (w.host.tree.put l
      (.file { f with content := .bytes (Octets.toBytes result) }))
    return after
  | .ok _, _ =>
    Work.complain 4 ("couldn't edit ".toList ++ path ++ ": not a regular file".toList)
    return r
  | .error fault, _ =>
    Work.complain 2 ("can't read ".toList ++ path ++ ": ".toList ++ fault.description.toList)
    return r

/-- Runs a script for files. -/
def runAll (o : Options) (e : EditSetting) (operands : List Octets) (expressions : Nat) :
    StateM Work Unit := do
  let start : Reached := ⟨EditState.initial, [], none⟩
  let input := (← get).input
  let isInPlace := o.has 'i'
  let reached ←
    if isInPlace then operands.foldlM (runInPlace e ((o.value? 'i').getD [])) start
    else (do
      let units ← readAll e.delimiter (Work.sources operands)
      let units := if o.has 's' then units else [units.flatten]
      return units.foldl (fun (r : Reached) inputs =>
        if r.status.isSome || r.state.fault.isSome then r else (runUnit e false inputs r).1) start)
  if reached.status.isSome && !isInPlace && (operands.isEmpty || operands = [['-']]) then
    Work.leaveInput (input.leaving (reached.state.ahead.flatMap fun i =>
      i.line.text ++ if i.line.isEnded then [e.delimiter] else []))
  let written := reached.written.reverse
  deliver isInPlace written
  deliverToFiles e.script.files written
  match reached.state.fault, reached.status with
  | some fault, _ =>
    Work.complain 1 ((EditOrigin.argument expressions).place 0 0 ++ ": ".toList ++ fault.text)
  | none, some status => if status ≠ 0 then Work.setStatus status
  | none, none => pure ()

end Sed

/-- Edits lines. -/
def sed : Utility := fun arguments =>
  match Options.read Sed.options arguments with
  | .error fault => do
    Work.warn fault.text
    Sed.usage
  | .ok o => do
    let isGiven := o.has 'e' || o.has 'f'
    match isGiven, o.operands with
    | false, [] => Sed.usage
    | _, operands =>
      let given := if isGiven then o.given else [('e', operands.head?.getD [])]
      let operands := if isGiven then operands else operands.drop 1
      match ← Sed.sources 1 given with
      | none => pure ()
      | some sources =>
        match EditScript.read (o.has 'E' || o.has 'r') sources with
        | .error fault =>
          Work.complain (if fault = RegexFault.bareClass.text.toList then 4 else 1) fault
        | .ok script =>
          match script.lostLabel? with
          | some label =>
            Work.complain 4 ("can't find label for jump to `".toList ++ label ++ ['\''])
          | none =>
            if ← Sed.openSinks script.files then
              if o.has 'i' && operands.isEmpty then Work.complain 4 "no input files".toList
              else
                let w ← get
                let e : EditSetting :=
                  { script := script
                    delimiter := if o.has 'z' then '\x00' else '\n'
                    isQuiet := o.has 'n' || script.isQuiet
                    width := (((o.value? 'l').bind Octets.natural?).map fun n =>
                      if n = 1 then 0 else n).getD 70
                    content? := fun path =>
                      match w.openPath path with
                      | .ok i => some i.text
                      | .error _ => none }
                let expressions := (sources.filter fun s =>
                  match s.origin with
                  | .argument _ => true
                  | .file _ => false).length
                Sed.runAll o e operands expressions

end Utility

end Shell

end BenchCampaign
