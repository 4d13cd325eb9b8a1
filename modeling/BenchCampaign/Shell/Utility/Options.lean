import BenchCampaign.Shell.Utility.Work

/-!
# Options of programs

Options are letters behind a hyphen, or names behind two, and may have values.
They can stand anywhere among the operands, in front of two hyphens.

* `Options.read`: the options and operands of arguments.
* `Options.fault`: what is wrong with arguments, in words.
-/

namespace BenchCampaign

namespace Shell

/-- Whether an option has a value. -/
inductive Valued where
  | never
  | always
  /-- Only in the same argument. -/
  | maybe
deriving DecidableEq, Repr

/-- The options that a program knows. -/
structure OptionSet where
  letters : List (Char × Valued)
  names : List (String × Char × Valued)
  /-- Whether what stands behind the first operand is no option. -/
  isOrdered : Bool

namespace OptionSet

/-- Reads letters, of which those in front of a colon have values, and of two colons may. -/
def lettersOf : List Char → List (Char × Valued)
  | c :: ':' :: ':' :: rest => (c, .maybe) :: lettersOf rest
  | c :: ':' :: rest => (c, .always) :: lettersOf rest
  | c :: rest => (c, .never) :: lettersOf rest
  | [] => []

/-- The set of some letters, and names that stand for letters. -/
def of (letters : String) (names : List (String × Char)) : OptionSet :=
  let ls := lettersOf letters.toList
  { letters := ls
    names := names.map fun (name, c) =>
      (name, c, ((ls.find? fun l => l.1 = c).map Prod.snd).getD .never)
    isOrdered := false }

/-- Without options behind the first operand. -/
def ordered (s : OptionSet) : OptionSet := { s with isOrdered := true }

end OptionSet

/-- The options and operands of arguments. -/
structure Options where
  given : List (Char × Octets)
  operands : List Octets

namespace Options

/-- Why arguments cannot be read. -/
inductive Fault where
  | unknownLetter (c : Char)
  | unknownName (argument : Octets)
  | letterValue (c : Char)
  | nameValue (name : String)
  | noValue (name : String)
  | ambiguous (argument : Octets) (names : List String)
deriving DecidableEq, Repr

/-- A fault in words. -/
def Fault.text : Fault → Octets
  | unknownLetter c => "invalid option -- '".toList ++ [c, '\'']
  | unknownName argument => "unrecognized option '".toList ++ argument ++ ['\'']
  | letterValue c => "option requires an argument -- '".toList ++ [c, '\'']
  | nameValue name => ("option '--" ++ name ++ "' requires an argument").toList
  | noValue name => ("option '--" ++ name ++ "' doesn't allow an argument").toList
  | ambiguous argument names =>
    "option '".toList ++ argument ++ "' is ambiguous; possibilities:".toList ++
      names.flatMap fun n => (" '--" ++ n ++ "'").toList

/-- Puts an option in front. -/
def cons (c : Char) (value : Octets) (o : Options) : Options :=
  { o with given := (c, value) :: o.given }

/-- The option of a name, which may be cut short. -/
def named? (s : OptionSet) (argument name : Octets) : Except Fault (String × Char × Valued) :=
  match s.names.find? fun n => n.1.toList = name with
  | some n => .ok n
  | none =>
    match s.names.filter fun n => name.isPrefixOf n.1.toList with
    | [n] => .ok n
    | [] => .error (.unknownName argument)
    | n :: ns =>
      if ns.all fun m => m.2.1 = n.2.1 then .ok n
      else .error (.ambiguous argument ((n :: ns).map Prod.fst))

/-- The letters of one argument; the last one may want the next argument. -/
def letters (s : OptionSet) : Octets → Except Fault (List (Char × Octets) × Option Char)
  | [] => .ok ([], none)
  | c :: rest =>
    match (s.letters.find? fun l => l.1 = c).map Prod.snd with
    | none => .error (.unknownLetter c)
    | some .never => (letters s rest).map fun (ls, wanting) => ((c, []) :: ls, wanting)
    | some .maybe => .ok ([(c, rest)], none)
    | some .always => if rest.isEmpty then .ok ([], some c) else .ok ([(c, rest)], none)

/-- The options of arguments, or what is wrong with them. -/
def read (s : OptionSet) : List Octets → Except Fault Options
  | [] => .ok ⟨[], []⟩
  | a :: rest =>
    match a with
    | ['-', '-'] => .ok ⟨[], rest⟩
    | '-' :: '-' :: text => do
      let name := text.takeWhile (· ≠ '=')
      let value := if name.length = text.length then none else some (text.drop (name.length + 1))
      let (full, c, valued) ← named? s ('-' :: '-' :: name) name
      match valued, value with
      | .never, some _ => .error (.noValue full)
      | .always, none =>
        match rest with
        | [] => .error (.nameValue full)
        | value :: rest => return (← read s rest).cons c value
      | _, value => return (← read s rest).cons c (value.getD [])
    | '-' :: c :: cs =>
      match letters s (c :: cs) with
      | .error fault => .error fault
      | .ok (ls, none) => (read s rest).map fun o => { o with given := ls ++ o.given }
      | .ok (ls, some c) =>
        match rest with
        | [] => .error (.letterValue c)
        | value :: rest =>
          (read s rest).map fun o => { o with given := ls ++ (c, value) :: o.given }
    | a =>
      if s.isOrdered then .ok ⟨[], a :: rest⟩
      else (read s rest).map fun o => { o with operands := a :: o.operands }

/-- Whether an option is given. -/
def has (o : Options) (c : Char) : Bool := o.given.any fun g => g.1 = c

/-- The last value of an option. -/
def value? (o : Options) (c : Char) : Option Octets :=
  (o.given.reverse.find? fun g => g.1 = c).map Prod.snd

/-- All values of an option. -/
def values (o : Options) (c : Char) : List Octets :=
  (o.given.filter fun g => g.1 = c).map Prod.snd

/-- The last one of some options that is given. -/
def last? (o : Options) (cs : List Char) : Option Char :=
  (o.given.reverse.find? fun g => cs.contains g.1).map Prod.fst

end Options

namespace Work

/-- Does something with the options and operands of arguments; what is wrong with them is
told, with a status. -/
def withOptions (status : Nat) (s : OptionSet) (arguments : List Octets)
    (act : Options → StateM Work Unit) : StateM Work Unit :=
  match Options.read s arguments with
  | .ok o => act o
  | .error fault => usage status fault.text

end Work

end Shell

end BenchCampaign
