import BenchCampaign.Shell.Regex

/-!
# Scripts of edits

A script of edits is a list of commands that are run for every line of a text.  A
command has a guard, which says for which lines it is run.

* `EditCommand`: commands.
* `EditScript`: scripts.
-/

namespace BenchCampaign

namespace Shell

/-- What is looked for in a line. -/
structure LinePattern where
  /-- Without an expression, the one that was looked for last is meant. -/
  regex : Option Regex
  ignoresCase : Bool
  /-- Whether a line feed ends a line within the text. -/
  hasLines : Bool
deriving Repr

/-- What tells a line from others. -/
inductive LineAddress where
  | number (n : Nat)
  | last
  /-- Every so many lines from one on. -/
  | step (first width : Nat)
  | pattern (p : LinePattern)
deriving Repr

/-- Where a range of lines ends. -/
inductive RangeEnd where
  | address (a : LineAddress)
  /-- So many lines behind the first one. -/
  | following (count : Nat)
  /-- At a line whose number is a multiple. -/
  | multiple (n : Nat)
deriving Repr

/-- For which lines a command is run. -/
structure EditGuard where
  first : Option LineAddress
  last : Option RangeEnd
  isNegated : Bool
deriving Repr

/-- How letters are changed. -/
inductive CaseChange where
  | none
  | upper
  | lower
deriving DecidableEq, Repr

/-- A part of what stands in place of something found. -/
inductive ReplacementPart where
  | text (cs : List Char)
  /-- What a group accepted; the group zero is all of it. -/
  | group (index : Nat)
  /-- Letters are changed from here on. -/
  | changeAll (change : CaseChange)
  /-- The next letter is changed. -/
  | changeNext (change : CaseChange)
deriving DecidableEq, Repr

/-- Where lines are written. -/
inductive EditSink where
  | descriptor (n : Nat)
  | file (path : List Char)
deriving DecidableEq, Repr

/-- What is found, and what is put in its place. -/
structure Substitution where
  pattern : LinePattern
  replacement : List ReplacementPart
  /-- Whether all that is found from the first one on is replaced. -/
  isGlobal : Bool
  /-- The number of the first one that is replaced. -/
  number : Nat
  prints : Bool
  sink : Option EditSink
deriving Repr

/-- When a command goes on at a label. -/
inductive Transfer where
  | always
  | ifReplaced
  | unlessReplaced
deriving DecidableEq, Repr

/-- What a command does. -/
inductive EditAction where
  | nothing
  /-- Stands in front of commands up to a place, which are run for the same lines. -/
  | block (stop : Nat)
  | append (text : List Char)
  | insert (text : List Char)
  | change (text : List Char)
  /-- Goes on at a label, or at the end if there is none. -/
  | transfer (t : Transfer) (label : List Char)
  | delete
  | deleteLine
  | fileName
  | take
  | takeMore
  | hold
  | holdMore
  | exchange
  | listing (width : Option Nat)
  | next
  | nextMore
  | print
  | printLine
  | quit (status : Nat) (prints : Bool)
  | readFile (path : List Char)
  | readLine (path : List Char)
  | substitute (s : Substitution)
  | write (sink : EditSink)
  | writeLine (sink : EditSink)
  | transliterate (pairs : List (Char × Char))
  | clear
  | number
deriving Repr

/-- A command. -/
structure EditCommand where
  guard : EditGuard
  action : EditAction
deriving Repr

/-- A script. -/
structure EditScript where
  commands : Array EditCommand
  labels : List (List Char × Nat)
  /-- The files that are written, which are made in any case. -/
  files : List (List Char)
  /-- Whether lines are only written when a command does so. -/
  isQuiet : Bool

namespace EditScript

/-- The place of a label; the end if it has no name. -/
def place? (s : EditScript) (label : List Char) : Option Nat :=
  if label.isEmpty then some s.commands.size
  else (s.labels.find? fun l => l.1 = label).map Prod.snd

/-- A label at which some command goes on, and that stands nowhere. -/
def lostLabel? (s : EditScript) : Option (List Char) :=
  s.commands.toList.findSome? fun c =>
    match c.action with
    | .transfer _ label => if (s.place? label).isNone then some label else none
    | _ => none

end EditScript

end Shell

end BenchCampaign
