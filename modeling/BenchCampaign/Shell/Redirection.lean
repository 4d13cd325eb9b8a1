import BenchCampaign.Shell.Expansion

/-!
# Redirections

A redirection lets a descriptor lead to a file, to a document in the script, or
to where another descriptor leads.  First the names of all targets are expanded;
then they are opened one after the other, and the first that cannot be opened
stops the rest.  A document is expanded when it is opened, so that its commands
see the redirections in front of it, and a failure in it is one of opening.

* `State.targets`: expands the names of the targets.
* `State.openAll`: opens them, or tells that one cannot be opened.
* `State.redirected`: runs something with redirected descriptors.
-/

namespace BenchCampaign

namespace Shell

/-- A redirection that can be opened. -/
inductive Opening where
  | of (descriptor : Nat) (direction : Direction) (target : Octets)
  | document (descriptor : Nat) (text : Word)

namespace State

/-! ## Targets -/

/-- Expands the target of a redirection.  Another descriptor is named by a digit, or by a
hyphen for none. -/
def target (expand : Expander) (st : State) : Redirection → Option Opening × State
  | .of descriptor direction word =>
    let (text, st) := st.text expand word
    if !st.isRunning then (none, st)
    else if direction = .sameAs && text ≠ ['-'] && !(text.length = 1 && text.all Char.isDigit) then
      let failed := { st with line := st.readerLine }.fail .noDescriptor
      (none, { failed with line := st.line })
    else (some (.of descriptor direction text), st)
  | .document descriptor text => (some (.document descriptor text), st)

/-- Expands the targets of redirections. -/
def targets (expand : Expander) (rs : List Redirection) (st : State) : List Opening × State :=
  let (os, st) := rs.foldl (fun ((os, st) : List Opening × State) r =>
    if st.isRunning then
      let (o, st) := st.target expand r
      (o.toList ++ os, st)
    else (os, st)) ([], st)
  (os.reverse, st)

/-! ## Opening -/

/-- The descriptor that a path stands for. -/
def descriptorAt? (path : Octets) : Option Nat :=
  match String.ofList path with
  | "/dev/stdin" => some 0
  | "/dev/stdout" => some 1
  | "/dev/stderr" => some 2
  | text => if text.startsWith "/dev/fd/" then Octets.natural? (path.drop 8) else none

/-- Why a path cannot be opened. -/
def openCause : PathFault → OpenCause
  | .nameTooLong => .nameTooLong
  | .isDirectory => .isDirectory
  | _ => .missing

/-- The only device that is not there. -/
def terminal : Octets := "/dev/tty".toList

/-- Opens a file to be read. -/
def openToRead (descriptor : Nat) (path : Octets) (st : State) : Except OpenCause State :=
  match descriptorAt? path with
  | some n =>
    if st.channel n = .closed then .error .missing else .ok (st.connect descriptor (st.channel n))
  | none =>
    if path = terminal then .error .noDevice
    else match st.host.resolve (Octets.toText path) with
      | .error fault => .error (openCause fault)
      | .ok l =>
        match st.host.tree.entry? l with
        | some (.file _) => .ok (st.openFile descriptor l true false false)
        | some (.device d) => .ok (st.connect descriptor (.device d))
        | some .directory => .ok (st.connect descriptor .directory)
        | none => .error .missing

/-- Opens a file to be written, which is made if there is none. -/
def openToWrite (descriptor : Nat) (path : Octets) (isRead keepsOld appends empties : Bool)
    (st : State) : Except OpenCause State :=
  match descriptorAt? path with
  | some n =>
    if st.channel n = .closed then .error .missing else .ok (st.connect descriptor (st.channel n))
  | none =>
    if path = terminal then .error .noDevice
    else match st.host.resolveNew (Octets.toText path) with
      | .error fault => .error (openCause fault)
      | .ok l =>
        let putFile := fun (f : RegularFile) =>
          ({ st with host := { st.host with tree := st.host.tree.put l (.file f) } }.openFile
            descriptor l isRead true appends)
        match st.host.tree.entry? l with
        | some (.file f) =>
          if keepsOld then .error .exists
          else if empties then .ok (putFile { f with content := .bytes [] })
          else .ok (st.openFile descriptor l isRead true appends)
        | some (.device d) => .ok (st.connect descriptor (.device d))
        | some .directory => .error .isDirectory
        | none => .ok (putFile ⟨0o666 &&& (0o777 - st.mask % 0o1000), .bytes []⟩)

/-- Opens what a text names, or tells why it cannot be opened. -/
def openNamed (descriptor : Nat) (direction : Direction) (name : Octets) (st : State) :
    Except Complaint State :=
  let toRead := fun (r : Except OpenCause State) =>
    r.mapError fun cause => Complaint.unopened name false cause
  let toWrite := fun (r : Except OpenCause State) =>
    r.mapError fun cause => Complaint.unopened name true cause
  match direction with
  | .reading => toRead (st.openToRead descriptor name)
  | .writing => toWrite (st.openToWrite descriptor name false (st.has 'C') false true)
  | .overwriting => toWrite (st.openToWrite descriptor name false false false true)
  | .appending => toWrite (st.openToWrite descriptor name false false true false)
  | .readingAndWriting => toWrite (st.openToWrite descriptor name true false false false)
  | .sameAs =>
    match Octets.natural? name with
    | none => .ok (st.connect descriptor .closed)
    | some n =>
      if st.channel n = .closed then .error (.badDescriptor name)
      else .ok (st.connect descriptor (st.channel n))

/-- Opens the target of a redirection, or tells why it cannot be opened and fails. -/
def openOne (expand : Expander) (st : State) : Opening → State
  | .of descriptor direction name =>
    match st.openNamed descriptor direction name with
    | .ok st => st
    | .error c => st.fail c
  | .document descriptor text =>
    let (text, st) := st.text expand text
    if st.isRunning then st.openInput descriptor (Input.ofText text) else st

/-- Opens targets one after the other, up to the first that cannot be opened. -/
def openAll (expand : Expander) (os : List Opening) (st : State) : State :=
  os.foldl (fun st o => if st.isRunning then st.openOne expand o else st) st

/-- Goes on after a failure with a status that tells of it. -/
def recovered (st : State) : State :=
  if st.flow == .failing then { st with flow := .running, status := 2 } else st

/-- Runs something with redirected descriptors; it has failed if one cannot be opened. -/
def redirected (expand : Expander) (rs : List Redirection) (act : State → State) (st : State) :
    State :=
  if rs.isEmpty then act st
  else
    let (os, st) := st.targets expand rs
    if !st.isRunning then st
    else
      let inner := st.openAll expand os
      let after := if inner.isRunning then act inner else inner.recovered.checkFailure
      { after with channels := st.channels }

end State

end Shell

end BenchCampaign
