import BenchCampaign.Decimal.Reading

/-!
# Options of a command line

A command declares its options, each with a long name, perhaps with a letter,
and with a value or without.  A value may be attached to its option or be the
next argument, unless that looks like an option itself.  No option may be given
twice, and there are no arguments but options.

* `Options.read`: the options of a command line, or why it is refused.
-/

namespace BenchCampaign

namespace CommandLine

/-- An option that a command has. -/
structure Declaration where
  name : String
  letter : Option Char
  /-- Which values it takes; an option without value has none. -/
  accepts : Option (String → Bool)

/-- Why a command line is not carried out. -/
inductive Refusal where
  /-- It is no command line of this command. -/
  | usage
  /-- It asks what the command is, and nothing else. -/
  | inquiry
deriving DecidableEq, Repr

/-- The options that are given, with their values; the value is empty where there is none. -/
abbrev Given := List (String × String)

/-- The options of a command. -/
structure Options where
  declared : List Declaration
  /-- The options that ask what the command is, with their letters. -/
  inquiries : List (String × Char)

namespace Options

/-- Whether an argument can be the value of the option in front of it. -/
def canBeValue (argument : String) : Bool :=
  argument.toList.head? ≠ some '-' || argument = "-"

/-- Adds an option; it may not be there yet, and has to take the value. -/
def add (given : Given) (d : Declaration) (value : String) : Except Refusal Given :=
  if given.any fun g => g.1 = d.name then .error .usage
  else match d.accepts with
    | some accepts => if accepts value then .ok (given ++ [(d.name, value)]) else .error .usage
    | none => .ok (given ++ [(d.name, value)])

/-- An argument that begins an option. -/
inductive Opening where
  /-- An option, perhaps with the value that is attached to it. -/
  | option (d : Declaration) (attached : Option String)
  | inquiry
  /-- The end of the options. -/
  | finish
  /-- No option of the command. -/
  | other

/-- The option of a long name, behind two dashes. -/
def ofName (o : Options) (text : List Char) : Opening :=
  let name := String.ofList (text.takeWhile (· ≠ '='))
  let attached := match text.dropWhile (· ≠ '=') with
    | _ :: value => some (String.ofList value)
    | [] => none
  match o.declared.find? fun d => d.name = name with
  | some d => .option d attached
  | none =>
    if attached.isNone && o.inquiries.any fun i => i.1 = name then .inquiry else .other

/-- The option of a letter, behind one dash; an equals sign in front of the value is no
part of it. -/
def ofLetter (o : Options) (letter : Char) (text : List Char) : Opening :=
  match o.declared.find? fun d => d.letter = some letter with
  | some d =>
    match text with
    | [] => .option d none
    | '=' :: value => .option d (some (String.ofList value))
    | value => .option d (some (String.ofList value))
  | none => if o.inquiries.any fun i => i.2 = letter then .inquiry else .other

/-- What an argument begins. -/
def opening (o : Options) (argument : String) : Opening :=
  match argument.toList with
  | ['-', '-'] => .finish
  | '-' :: '-' :: text => o.ofName text
  | '-' :: letter :: text => o.ofLetter letter text
  | _ => .other

/-- The options of some arguments, behind those that are given already. -/
def readFrom (o : Options) : List String → Given → Except Refusal Given
  | [], given => .ok given
  | argument :: rest, given =>
    match o.opening argument with
    | .inquiry => .error .inquiry
    | .finish => if rest.isEmpty then .ok given else .error .usage
    | .other => .error .usage
    | .option d attached =>
      match d.accepts, attached with
      | none, none => (add given d "").bind (o.readFrom rest)
      | none, some _ => .error .usage
      | some _, some value => (add given d value).bind (o.readFrom rest)
      | some _, none =>
        match rest with
        | [] => .error .usage
        | value :: rest =>
          if canBeValue value then (add given d value).bind (o.readFrom rest)
          else .error .usage

/-- The options of a command line. -/
def read (o : Options) (arguments : List String) : Except Refusal Given :=
  o.readFrom arguments []

end Options

namespace Given

/-- The value of an option. -/
def value? (given : Given) (name : String) : Option String :=
  (given.find? fun g => g.1 = name).map Prod.snd

/-- Whether an option is given. -/
def has (given : Given) (name : String) : Bool := (value? given name).isSome

end Given

/-! ## Values -/

/-- The text of a number without its plus sign. -/
def withoutPlus (text : List Char) : List Char :=
  match text with
  | '+' :: rest => rest
  | rest => rest

/-- A number of 32 bits; zero may have a minus sign. -/
def word32? (value : String) : Option UInt32 :=
  match value.toList with
  | '-' :: digits =>
    match Decimal.natural? digits with
    | some 0 => some 0
    | _ => none
  | text =>
    (Decimal.natural? (withoutPlus text)).bind fun n =>
      if n < UInt32.size then some (UInt32.ofNat n) else none

/-- A number of 64 bits. -/
def word64? (value : String) : Option UInt64 :=
  (Decimal.natural? (withoutPlus value.toList)).bind fun n =>
    if n < UInt64.size then some (UInt64.ofNat n) else none

/-- A path is not empty. -/
def isPath (value : String) : Bool := !value.isEmpty

/-- An option with a path. -/
def pathOption (name : String) (letter : Char) : Declaration := ⟨name, some letter, some isPath⟩

/-- An option without value. -/
def switch (name : String) : Declaration := ⟨name, none, none⟩

/-- Every command can be asked what it is. -/
def helpInquiry : String × Char := ("help", 'h')

/-- A program can also be asked which version it is. -/
def versionInquiry : String × Char := ("version", 'V')

/-! ## What commands come to -/

/-- The code of success. -/
def successCode : Nat := 0

/-- The code of a command that could not be carried out. -/
def failureCode : Nat := 1

/-- The code of a command line that is refused. -/
def usageCode : Nat := 2

/-- The code of a refusal. -/
def Refusal.code : Refusal → Nat
  | usage => usageCode
  | inquiry => successCode

end CommandLine

end BenchCampaign
