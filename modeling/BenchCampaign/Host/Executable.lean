import BenchCampaign.Host.FileTree
import BenchCampaign.Launch
import BenchCampaign.Text.Search
import BenchCampaign.Text.Utf8

/-!
# What a launch executes

A program with a slash in its name is the file at that path; any other name is
searched for in the directories of the search path, and nowhere else.  A file is
either a program of the system, or a script whose first line names the program
that is to read it.

* `Host.execute`: the program of the system that a path and arguments come to.
* `Host.search`: the same for the name of a program.
-/

namespace BenchCampaign

/-- A program of the system with what it is called with. -/
structure Invocation where
  program : String
  /-- The name it is called by, and then its arguments. -/
  arguments : List String
deriving DecidableEq, Repr

/-- Why nothing at a path can be launched. -/
def LaunchFault.ofPathFault : PathFault → LaunchFault
  | .missing => missing
  | .notDirectory => notDirectory
  | .nameTooLong => nameTooLong
  | .nulCharacter => nulCharacter
  | .isDirectory => denied
  | .noSpace => denied

/-! ## Scripts -/

namespace Script

/-- How many bytes of a script are looked at. -/
def maxLine : Nat := 256

/-- Whether a byte separates the words of a first line. -/
def isSpace (b : UInt8) : Bool := b == 0x20 || b == 0x09

/-- Without blanks at both ends. -/
def trimSpaces (line : List UInt8) : List UInt8 :=
  ((line.dropWhile isSpace).reverse.dropWhile isSpace).reverse

/-- A text of some bytes, each of them a character if they are no text together. -/
def textOf (bytes : List UInt8) : String :=
  match Text.ofUtf8? bytes with
  | some cs => String.ofList cs
  | none => String.ofList (bytes.map fun b => Char.ofNat b.toNat)

/-- The interpreter in the first line of a script, and what stands behind it. -/
def interpreter? (content : List UInt8) : Option (String × Option String) :=
  match content with
  | 0x23 :: 0x21 :: rest =>
    let line := trimSpaces ((rest.take (maxLine - 2)).takeWhile (· != 0x0A))
    let name := line.takeWhile fun b => !isSpace b
    let argument := (line.dropWhile fun b => !isSpace b).dropWhile isSpace
    if name.isEmpty then none
    else some (textOf name, if argument.isEmpty then none else some (textOf argument))
  | _ => none

end Script

namespace Host

/-! ## Executing files -/

/-- The program that executes the file at a path; `interpreters` scripts may be each
other's interpreters. -/
def executeFile (h : Host) : (interpreters : Nat) → String → List String →
    Except LaunchFault Invocation
  | 0, _, _ => .error .tooManyInterpreters
  | interpreters + 1, path, arguments =>
    match h.resolve path with
    | .error fault => .error (LaunchFault.ofPathFault fault)
    | .ok l =>
      match h.tree.entry? l with
      | some (.file f) =>
        if !f.isExecutable then .error .denied
        else match f.content with
          | .program name => .ok ⟨name, path :: arguments⟩
          | .bytes content =>
            match Script.interpreter? content with
            | none => .error .notExecutableFormat
            | some (name, argument) =>
              h.executeFile interpreters name (argument.toList ++ path :: arguments)
      | _ => .error .denied

/-- How many scripts can stand between a launch and a program. -/
def maxInterpreters : Nat := 6

/-- The longest argument, in bytes. -/
def maxArgument : Nat := 131071

/-- The program that a path is executed by. -/
def execute (h : Host) (path : String) (arguments : List String) :
    Except LaunchFault Invocation :=
  if (path :: arguments).any fun a => a.toList.contains '\x00' then .error .nulCharacter
  else if (path :: arguments).any fun a => maxArgument < a.utf8ByteSize then
    .error .argumentsTooLong
  else h.executeFile maxInterpreters path arguments

/-! ## Searching programs -/

/-- The path of a name in a directory; no directory is the one that one works in. -/
def inDirectory (directory name : String) : String :=
  if directory.isEmpty then name else directory ++ "/" ++ name

/-- Tries a name in one directory after the other; `fault` is told if none has it. -/
def searchIn (h : Host) (name : String) (arguments : List String) (fault : LaunchFault) :
    List String → Except LaunchFault Invocation
  | [] => .error fault
  | d :: rest =>
    match h.execute (inDirectory d name) arguments with
    | .error .missing => h.searchIn name arguments fault rest
    | .error .notDirectory => h.searchIn name arguments fault rest
    | .error .denied => h.searchIn name arguments .denied rest
    | result => result

/-- The program that a path or a name is executed by. -/
def search (h : Host) (name : String) (arguments : List String) :
    Except LaunchFault Invocation :=
  if name.toList.contains '/' then h.execute name arguments
  else if (name :: arguments).any fun a => a.toList.contains '\x00' then .error .nulCharacter
  else if name.isEmpty then .error .missing
  else if Path.maxName < name.utf8ByteSize then .error .nameTooLong
  else h.searchIn name arguments .missing h.searchPath

end Host

end BenchCampaign
