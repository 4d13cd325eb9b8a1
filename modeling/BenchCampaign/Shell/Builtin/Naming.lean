import BenchCampaign.Shell.Builtin.Letters
import BenchCampaign.Shell.Search

/-!
# Names of commands

Commands that tell what a name stands for, and that give names to texts.

* `Meaning`, `State.meaning`: what a name stands for.
* `Builtin.type`, `Builtin.describe`, `Builtin.hash`.
* `Builtin.nameTexts`, `Builtin.forgetNames`.
-/

namespace BenchCampaign

namespace Shell

/-- The commands of the shell that functions can stand in for. -/
def regularCommands : List String :=
  ["[", "alias", "bg", "cd", "chdir", "command", "echo", "false", "fg", "getopts", "hash", "jobs",
    "kill", "printf", "pwd", "read", "test", "true", "type", "ulimit", "umask", "unalias", "wait"]

/-- What a name stands for. -/
inductive Meaning where
  | reserved
  | text (cs : Octets)
  | special
  | function
  | builtin
  /-- A program that has been run before. -/
  | tracked (path : Octets)
  | program (path : Octets)
  | nothing
deriving DecidableEq, Repr

/-- What a name stands for. -/
def State.meaning (st : State) (name : Octets) : Meaning :=
  let key := String.ofList name
  if (Reserved.ofText? name).isSome then .reserved
  else match st.aliases.get? key with
    | some cs => .text cs
    | none =>
      if specialCommands.contains key then .special
      else if st.functions.contains key then .function
      else if regularCommands.contains key then .builtin
      else match st.tracked.get? key with
        | some path => .tracked path
        | none =>
          if name.contains '/' then
            if (st.host.entry? (Octets.toText name)).isSome then .program name else .nothing
          else match st.search name with
            | .ok path => .program path
            | .error _ => .nothing

namespace Builtin

open State

/-- Tells at length what a name stands for. -/
def describe (name : Octets) (st : State) : State :=
  let told := fun (text : String) (cs : Octets) =>
    (st.tell (name ++ text.toList ++ cs ++ ['\n']))
  match st.meaning name with
  | .reserved => told " is a shell keyword" []
  | .text cs => told " is an alias for " cs
  | .special => told " is a special shell builtin" []
  | .function => told " is a shell function" []
  | .builtin => told " is a shell builtin" []
  | .tracked path => told " is a tracked alias for " path
  | .program path => (told " is " path).track name
  | .nothing => (told ": not found" []).withStatus 127

/-- Tells in short what a name stands for. -/
def mention (name : Octets) (st : State) : State :=
  match st.meaning name with
  | .text cs => st.tell ("alias ".toList ++ name ++ '=' :: shellQuote cs ++ ['\n'])
  | .tracked path => st.tell (path ++ ['\n'])
  | .program path => (st.tell (path ++ ['\n'])).track name
  | .nothing => st.withStatus 127
  | _ => st.tell (name ++ ['\n'])

/-- Tells what names stand for. -/
def type : Builtin := fun _ arguments st =>
  arguments.foldl (fun st name => describe name st) (st.withStatus 0)

/-- Tells what a name stands for, if an option asks for it. -/
def inquire : Builtin := fun _ arguments st =>
  st.withLetters "pvV" arguments fun o st =>
    match o.operands with
    | [] => st.withStatus 0
    | name :: _ =>
      if o.has 'V' then describe name (st.withStatus 0) else mention name (st.withStatus 0)

/-- Lists where programs were found, or looks for some. -/
def hash : Builtin := fun _ arguments st =>
  st.withLetters "r" arguments fun o st =>
    let st := st.withStatus 0
    if o.has 'r' then { st with tracked := NameTable.empty }
    else if o.operands.isEmpty then
      st.tell ((inPlaces 31 st.tracked.names).flatMap fun name =>
        ((st.tracked.get? name).getD []) ++ ['\n'])
    else
      o.operands.foldl (fun st name =>
        match st.meaning name with
        | .nothing => (st.complain (.notFound name)).withStatus 1
        | .program _ => st.track name
        | _ => st) st

/-! ## Aliases -/

/-- An alias as it is listed. -/
def aliasLine (name : String) (text : Octets) : Octets :=
  Octets.ofString name ++ '=' :: shellQuote text ++ ['\n']

/-- Tells that there is no alias of a name. -/
def noAlias (command : String) (name : Octets) (st : State) : State :=
  (st.write 2 (command.toList ++ [':', ' '] ++ name ++ " not found\n".toList)).withStatus 1

/-- Gives names to texts, or lists those that have one. -/
def nameTexts : Builtin := fun _ arguments st =>
  let st := st.withStatus 0
  if arguments.isEmpty then
    st.tell ((inPlaces 39 st.aliases.names).flatMap fun name =>
      ((st.aliases.get? name).map (aliasLine name)).getD [])
  else
    arguments.foldl (fun st a =>
      let name := a.take 1 ++ (a.drop 1).takeWhile (· ≠ '=')
      let key := String.ofList name
      if name.length = a.length then
        match st.aliases.get? key with
        | some text => st.tell (aliasLine key text)
        | none => noAlias "alias" name st
      else { st with aliases := st.aliases.insert key (a.drop (name.length + 1)) }) st

/-- Takes names from texts. -/
def forgetNames : Builtin := fun _ arguments st =>
  st.withLetters "a" arguments fun o st =>
    let st := st.withStatus 0
    if o.has 'a' then { st with aliases := NameTable.empty }
    else
      o.operands.foldl (fun st name =>
        let key := String.ofList name
        if st.aliases.contains key then { st with aliases := st.aliases.erase key }
        else noAlias "unalias" name st) st

end Builtin

end Shell

end BenchCampaign
