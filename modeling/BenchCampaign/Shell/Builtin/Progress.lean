import BenchCampaign.Shell.Builtin.Letters
import BenchCampaign.Shell.Format
import BenchCampaign.Shell.Search

/-!
# Where a script goes on

Commands that end a script, a function or a loop, and commands that run text as
a script.

* `Builtin.exit`, `Builtin.leave`, `Builtin.leaveLoop`, `Builtin.shift`.
* `Builtin.eval`, `Builtin.source`.
-/

namespace BenchCampaign

namespace Shell

namespace Builtin

open State

/-- With a status, and nothing else. -/
def status (n : Nat) : Builtin := fun _ _ st => st.withStatus n

/-- Ends the script; in a trap, without a status of its own, with that from before the
trap. -/
def exit : Builtin := fun _ arguments st =>
  match arguments with
  | [] => st.exit (st.statusBefore.getD st.status)
  | a :: _ => st.withNumber a fun n st => st.exit n

/-- Ends a function or a sourced script. -/
def leave : Builtin := fun _ arguments st =>
  match arguments with
  | [] => { st with flow := .returning }
  | a :: _ => st.withNumber a fun n st => { st with flow := .returning, status := n }

/-- Ends loops, or their present round: at most as many as there are, and outside of loops
it is not a failure. -/
def leaveLoop (flow : Nat → Flow) : Builtin := fun _ arguments st =>
  st.withNumber (arguments.head?.getD ['1']) fun n st =>
    if n = 0 then st.fail (.illegalNumber (arguments.head?.getD []))
    else if st.loops = 0 then st.withStatus 0
    else { st with flow := flow (min n st.loops), status := 0 }

/-- Drops arguments. -/
def shift : Builtin := fun _ arguments st =>
  st.withNumber (arguments.head?.getD ['1']) fun n st =>
    if st.arguments.length < n then st.fail .cannotShift
    else { st.resetOptions 1 with arguments := st.arguments.drop n, status := 0 }

/-- Runs its arguments as a script. -/
def eval : Builtin := fun run arguments st =>
  if arguments.isEmpty then st.withStatus 0
  else st.runPart run (Format.joined arguments)

/-! ## Sourced scripts -/

/-- The path of a script that is sourced. -/
def sourcePath? (st : State) (name : Octets) : Option Octets :=
  if name.contains '/' then some name
  else (st.places name).find? fun p => (st.host.file? (Octets.toText p)).isSome

/-- Runs the commands of a file. -/
def source : Builtin := fun run arguments st =>
  st.withLetters "" arguments fun o st =>
    match o.operands with
    | [] => st.withStatus 0
    | name :: _ =>
      match sourcePath? st name with
      | none => st.fail (.notFound name)
      | some path =>
        match st.host.resolve (Octets.toText path) with
        | .error .nameTooLong => st.fail (.unopened path false .nameTooLong)
        | .error _ => st.fail (.unopened path false .missing)
        | .ok l =>
          let text := match st.host.tree.entry? l with
            | some (.file f) => Octets.ofBytes f.content.toBytes
            | _ => []
          let after := { st with command := some path, isTested := false }.runPart run text
          let after := { after with command := st.command, isTested := st.isTested }
          if after.flow == .returning then { after with flow := .running } else after

end Builtin

end Shell

end BenchCampaign
