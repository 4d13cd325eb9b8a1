import BenchCampaign.Shell.Octets

/-!
# Shell scripts

The commands of a script as trees.  Commands that can fail by themselves know the
line that they stand in.

* `isName`: what a variable or a function can be called.
* `Piece`, `Word`: text with parameters and commands to be put in.
* `Command`: what a script consists of.
-/

namespace BenchCampaign

namespace Shell

/-! ## Names -/

/-- Whether a name can begin with a character. -/
def isNameStart (c : Char) : Bool := c.isAlpha || c = '_'

/-- Whether a character can stand in a name. -/
def isNamePart (c : Char) : Bool := c.isAlphanum || c = '_'

/-- The name that a text begins with, and what follows. -/
def name? (text : Octets) : Option (String × Octets) :=
  match text with
  | c :: _ =>
    if isNameStart c then
      some (String.ofList (text.takeWhile isNamePart), text.dropWhile isNamePart)
    else none
  | [] => none

/-- Whether a text is a name. -/
def isName (text : Octets) : Bool :=
  match name? text with
  | some (_, []) => true
  | _ => false

/-! ## Words -/

/-- What a value can be asked of. -/
inductive Parameter where
  | named (name : String)
  /-- An argument of the script, from 1 on; 0 is the script itself. -/
  | argument (position : Nat)
  /-- All arguments, joined to one text if they are quoted. -/
  | joined
  /-- All arguments, one by one also if they are quoted. -/
  | each
  | count
  | status
  | process
  /-- The process of the last command that was run in the background. -/
  | background
  | options
deriving DecidableEq, Repr

/-- A parameter as it is written. -/
def Parameter.text : Parameter → Octets
  | named name => name.toList
  | argument position => Octets.ofNat position
  | joined => ['*']
  | each => ['@']
  | count => ['#']
  | status => ['?']
  | process => ['$']
  | background => ['!']
  | options => ['-']

/-- What stands in for a value. -/
inductive Substitute where
  | otherwise
  | assigned
  | failing
  | instead
deriving DecidableEq, Repr

/-- How a file descriptor is redirected. -/
inductive Direction where
  | reading
  | writing
  /-- Writing, also over a file that is kept from it. -/
  | overwriting
  | appending
  | readingAndWriting
  /-- To where another descriptor leads. -/
  | sameAs
deriving DecidableEq, Repr

mutual

/-- A part of a word. -/
inductive Piece where
  | text (quoted : Bool) (cs : Octets)
  | value (quoted : Bool) (p : Parameter)
  | length (quoted : Bool) (p : Parameter)
  /-- A value, or what stands in for one that is unset or, with `orEmpty`, empty. -/
  | guarded (quoted : Bool) (p : Parameter) (orEmpty : Bool) (s : Substitute) (word : List Piece)
  /-- A value without what matches a pattern at one end. -/
  | trimmed (quoted : Bool) (p : Parameter) (atEnd longest : Bool) (pattern : List Piece)
  | output (quoted : Bool) (script : List Command)
  | arithmetic (quoted : Bool) (word : List Piece)
  /-- Something in braces that means nothing. -/
  | meaningless

/-- A redirection of a command. -/
inductive Redirection where
  /-- What a word names. -/
  | of (descriptor : Nat) (direction : Direction) (target : List Piece)
  /-- A document that stands in the script. -/
  | document (descriptor : Nat) (text : List Piece)

/-- A command. -/
inductive Command where
  | simple (line : Nat) (assignments : List (String × List Piece)) (words : List (List Piece))
      (redirections : List Redirection)
  | group (body : List Command)
  | subshell (line : Nat) (body : List Command) (redirections : List Redirection)
  /-- A compound command with redirections behind it. -/
  | redirected (line : Nat) (body : Command) (redirections : List Redirection)
  | choice (test body otherwise : List Command)
  /-- Repeats its body while the test succeeds, or until it does. -/
  | loop (untilSuccess : Bool) (test body : List Command)
  /-- Repeats its body for every word. -/
  | each (line : Nat) (name : String) (words : List (List Piece)) (body : List Command)
  | cases (line : Nat) (subject : List Piece) (arms : List (List (List Piece) × List Command))
  | define (name : String) (body : Command)
  | pipeline (stages : List Command)
  | negation (body : Command)
  /-- Both commands, the second only if the first succeeds, or only if it fails. -/
  | chain (onSuccess : Bool) (first second : Command)
  | background (line : Nat) (command : Command)

end

/-- Text with parameters and commands to be put in. -/
abbrev Word := List Piece

/-- Commands one after the other. -/
abbrev Script := List Command

/-- The commands of the shell that no function can stand in for. -/
def specialCommands : List String :=
  [".", ":", "break", "continue", "eval", "exec", "exit", "export", "local", "readonly", "return",
    "set", "shift", "times", "trap", "unset"]

end Shell

end BenchCampaign
