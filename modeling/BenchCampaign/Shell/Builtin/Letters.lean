import BenchCampaign.Shell.Session
import BenchCampaign.Shell.Utility.Options

/-!
# Options of the shell's own commands

The options of a command of the shell are letters in front of its operands.

* `Builtin`: a command of the shell.
* `State.withLetters`: does something with the letters and operands of a command.
-/

namespace BenchCampaign

namespace Shell

/-- A command of the shell: how scripts are run, its arguments, and the state. -/
abbrev Builtin := Runner → List Octets → State → State

namespace Options

/-- Why arguments have no letters that a command of the shell knows. -/
def Fault.complaint : Fault → Complaint
  | unknownLetter c => .illegalOption c
  | letterValue c => .noArgument c
  | _ => .illegalOption '-'

/-- The letters in front of operands, of which two hyphens end the letters. -/
def ofLetters (s : OptionSet) : List Octets → Except Fault Options
  | [] => .ok ⟨[], []⟩
  | a :: rest =>
    match a with
    | ['-', '-'] => .ok ⟨[], rest⟩
    | '-' :: c :: cs =>
      match letters s (c :: cs) with
      | .error fault => .error fault
      | .ok (ls, none) => (ofLetters s rest).map fun o => { o with given := ls ++ o.given }
      | .ok (ls, some c) =>
        match rest with
        | [] => .error (.letterValue c)
        | value :: rest =>
          (ofLetters s rest).map fun o => { o with given := ls ++ (c, value) :: o.given }
    | a => .ok ⟨[], a :: rest⟩

end Options

namespace State

/-- Does something with the letters and operands of a command; `known` are the letters, with
colons behind those that have values. -/
def withLetters (known : String) (arguments : List Octets) (act : Options → State → State)
    (st : State) : State :=
  match Options.ofLetters (OptionSet.of known []) arguments with
  | .ok o => act o st
  | .error fault => st.fail fault.complaint

/-- Does something with a number. -/
def withNumber (text : Octets) (act : Nat → State → State) (st : State) : State :=
  match number? text with
  | some n => act n st
  | none => st.fail (.illegalNumber text)

/-- Does something with each of some operands, as long as nothing fails. -/
def forEach (operands : List Octets) (act : Octets → State → State) (st : State) : State :=
  operands.foldl (fun st a => if st.isRunning then act a st else st) st

end State

/-- A text between quotation marks from which a shell reads it again. -/
def shellQuote (text : Octets) : Octets :=
  go (text.length + 1) text
where
  /-- Quotes text up to quotation marks, and those by others. -/
  go : (fuel : Nat) → Octets → Octets
    | 0, _ => []
    | fuel + 1, text =>
      let plain := text.takeWhile (· ≠ '\'')
      let marks := (text.drop plain.length).takeWhile (· = '\'')
      let rest := text.drop (plain.length + marks.length)
      let shown := '\'' :: plain ++ ['\''] ++
        (if marks.isEmpty then [] else '"' :: marks ++ ['"'])
      if rest.isEmpty then shown else shown ++ go fuel rest

/-- Names in the order in which a table with `size` places keeps them. -/
def inPlaces (size : Nat) (names : List String) : List String :=
  let place := fun name : String =>
    let cs := Octets.ofString name
    (cs.foldl (fun n c => n + c.toNat) ((cs.head?.getD '\x00').toNat * 16)) % 32768 % size
  names.mergeSort fun a b => decide (place a ≤ place b)

end Shell

end BenchCampaign
