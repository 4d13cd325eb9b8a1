import BenchCampaign.Shell.Builtin.Letters
import BenchCampaign.Shell.Condition
import BenchCampaign.Shell.Format

/-!
# Texts, conditions and directories

Commands that write their arguments, that test conditions, and that go from one
directory to another.

* `Builtin.echo`, `Builtin.printf`.
* `Builtin.test`, `Builtin.bracket`.
* `Builtin.cd`, `Builtin.pwd`.
-/

namespace BenchCampaign

namespace Shell

namespace Builtin

open State

/-! ## Texts -/

/-- Echoes its arguments. -/
def echo : Builtin := fun _ arguments st =>
  (st.withStatus 0).tell (Format.echo arguments)

/-- Writes a format with arguments put in; what is wrong is told before it. -/
def printf : Builtin := fun _ arguments st =>
  st.withLetters "" arguments fun o st =>
    match o.operands with
    | [] => st.fail (.usage "usage: printf format [arg ...]")
    | format :: rest =>
      let p := Format.print (rest.length + 1) format rest
      let st := p.complaints.foldl complain (st.withStatus (if p.isRight then 0 else 1))
      let st := match p.fault with
        | some c => st.fail c
        | none => st
      st.tell p.text

/-! ## Conditions -/

/-- The setting that conditions are tested in. -/
def setting (st : State) : Condition.Setting :=
  { host := st.host
    isSame := fun a b =>
      match st.host.resolve (Octets.toText a), st.host.resolve (Octets.toText b) with
      | .ok l, .ok m => l == m
      | _, _ => false }

/-- Tests a condition. -/
def test : Builtin := fun _ arguments st =>
  match Condition.test (setting st) arguments with
  | .ok holds => st.withStatus (if holds then 0 else 1)
  | .error c => st.fail c

/-- Tests a condition in front of an argument that begins with a closing bracket. -/
def bracket : Builtin := fun run arguments st =>
  if (arguments.getLast?.bind List.head?) = some ']' then test run arguments.dropLast st else st.fail .noBracket

/-! ## Directories -/

/-- The path of a location. -/
def pathOf (l : Location) : Octets := Octets.ofString ("/" ++ String.intercalate "/" l)

/-- The location that the names of a path lead to, if each goes up or down by itself. -/
def plainLocation (st : State) (path : Octets) : Location :=
  let names := (Octets.partsAt '/' path).filter fun n => !n.isEmpty && n ≠ ['.']
  names.foldl (fun l n => if n = ['.', '.'] then l.dropLast else l ++ [Octets.toText n])
    (if path.head? = some '/' then [] else st.host.directory)

/-- Whether a directory lies at a location. -/
def isDirectory (st : State) (l : Location) : Bool := st.host.tree.entry? l == some .directory

/-- Goes to a directory. -/
def enter (l : Location) (st : State) : State :=
  let old := (st.binding? "PWD").getD (pathOf st.host.directory)
  let st := { st with host := { st.host with directory := l } }
  let st := ((st.setVariable "OLDPWD" old).exportVariable "OLDPWD").setVariable "PWD" (pathOf l)
  (st.exportVariable "PWD").withStatus 0

/-- The paths that a directory is looked for at, with whether each is told when it is
entered. -/
def candidates (st : State) (target : Octets) : List (Octets × Bool) :=
  let isFixed := target.head? = some '/' || target.take 1 = ['.'] &&
    (match Octets.partsAt '/' target with
      | name :: _ => name = ['.'] || name = ['.', '.']
      | [] => false)
  if isFixed then [(target, false)]
  else
    let target := if target.isEmpty then ['.'] else target
    let directories := Octets.partsAt ':' ((st.binding? "CDPATH").getD [])
    (directories.map fun d => if d.isEmpty then (target, false) else (d ++ '/' :: target, true)) ++
      [(target, false)]

/-- Goes to another directory. -/
def cd : Builtin := fun _ arguments st =>
  st.withLetters "LP" arguments fun o st =>
    let (target, isTold) := match o.operands.head? with
      | none => ((st.binding? "HOME").getD [], false)
      | some ['-'] => ((st.binding? "OLDPWD").getD [], true)
      | some target => (target, false)
    let found := (candidates st target).find? fun c => isDirectory st (plainLocation st c.1)
    match found with
    | none => st.fail (.cannotEnter target)
    | some (path, isElsewhere) =>
      let l := plainLocation st path
      let st := enter l st
      if isTold || isElsewhere then st.tell (pathOf l ++ ['\n']) else st

/-- Tells the directory that one works in. -/
def pwd : Builtin := fun _ arguments st =>
  st.withLetters "LP" arguments fun _ st =>
    (st.withStatus 0).tell (pathOf st.host.directory ++ ['\n'])

end Builtin

end Shell

end BenchCampaign
