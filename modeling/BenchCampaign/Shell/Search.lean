import BenchCampaign.Shell.State

/-!
# Searching programs

A name without a slash stands for a program in one of the directories of the
search path, which a variable holds.

* `State.places`: the paths at which a name is looked for.
* `State.search`: the path of a program, or why there is none.
* `State.track`: remembers where a program was found.
-/

namespace BenchCampaign

namespace Shell

namespace State

/-- The paths at which a name is looked for. -/
def places (st : State) (name : Octets) : List Octets :=
  (Octets.partsAt ':' ((st.binding? "PATH").getD [])).map fun d =>
    if d.isEmpty then name else d ++ '/' :: name

/-- The first of some paths at which a file lies; else why the last one that is not just
missing has none. -/
def searchAt (h : Host) (fault : LaunchFault) : List Octets → Except LaunchFault Octets
  | [] => .error fault
  | path :: rest =>
    match h.resolve (Octets.toText path) with
    | .error .missing => searchAt h fault rest
    | .error .notDirectory => searchAt h fault rest
    | .error f => searchAt h (.ofPathFault f) rest
    | .ok l =>
      match h.tree.entry? l with
      | some (.file f) => if f.isExecutable then .ok path else searchAt h .denied rest
      | _ => searchAt h .denied rest

/-- The path of a program, or why there is none. -/
def search (st : State) (name : Octets) : Except LaunchFault Octets :=
  if name.contains '/' then .ok name
  else searchAt st.host .missing (st.places name)

/-- Remembers where a program was found. -/
def track (st : State) (name : Octets) : State :=
  if name.contains '/' then st
  else match st.search name with
    | .ok path => { st with tracked := st.tracked.insert (String.ofList name) path }
    | .error _ => st

end State

end Shell

end BenchCampaign
