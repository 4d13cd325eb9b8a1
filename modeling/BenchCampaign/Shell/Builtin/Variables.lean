import BenchCampaign.Shell.Builtin.Letters

/-!
# Variables, options and arguments

Commands that change the variables of a shell, how they are kept, the options
that are set, and the arguments.

* `Builtin.keeps`, `Builtin.localVariables`, `Builtin.unset`.
* `Builtin.set`: options and arguments.
* `Builtin.getopts`: options of a script's own.
-/

namespace BenchCampaign

namespace Shell

namespace Builtin

open State

/-! ## Variables -/

/-- A name, and the value behind an equals sign. -/
def assignment (a : Octets) : Octets × Option Octets :=
  let name := a.takeWhile (· ≠ '=')
  (name, if name.length = a.length then none else some (a.drop (name.length + 1)))

/-- A variable as it can be read again, behind a word. -/
def shown (lead : Octets) (name : String) (v : Variable) : Octets :=
  let value := (v.value.map fun cs => '=' :: shellQuote cs).getD []
  lead ++ name.toList ++ value ++ ['\n']

/-- Lists variables in the order of their names. -/
def listing (lead : Octets) (isListed : Variable → Bool) (st : State) : Octets :=
  let vs := (st.bindings.entries.filter fun v => isListed v.2).mergeSort fun a b =>
    decide (a.1 ≤ b.1)
  vs.flatMap fun v => shown lead v.1 v.2

/-- Gives variables values, and changes how they are kept; without names it lists those that
are kept so. -/
def keeps (word : String) (isKept : Variable → Bool) (keep : Variable → Variable) : Builtin :=
  fun _ arguments st =>
    st.withLetters "p" arguments fun o st =>
      let st := st.withStatus 0
      if o.has 'p' || o.operands.isEmpty then
        st.tell (listing (word.toList ++ [' ']) isKept st)
      else
        st.forEach o.operands fun a st =>
          let (name, value) := assignment a
          let st := match value with
            | some v => st.assignNamed name v
            | none => if isName name then st else st.fail (.badName name)
          if st.isRunning then st.changeVariable (String.ofList name) keep else st

/-- Hands variables on to programs. -/
def exports : Builtin :=
  keeps "export" Variable.isExported fun v => { v with isExported := true }

/-- Lets variables keep their values. -/
def keepsValues : Builtin :=
  keeps "readonly" Variable.isReadOnly fun v => { v with isReadOnly := true }

/-- Gives variables values until the present function ends. -/
def localVariables : Builtin := fun _ arguments st =>
  if st.calls = 0 then st.fail .noFunction
  else
    (st.withStatus 0).forEach arguments fun a st =>
      let (name, value) := assignment a
      if !isName name then st.fail (.badName name)
      else
        let key := String.ofList name
        let st := { st with saved := (key, st.entryOf? key) :: st.saved }
        match value with
        | some v => st.assign key v
        | none => st

/-- Takes values or functions away. -/
def unset : Builtin := fun _ arguments st =>
  st.withLetters "vf" arguments fun o st =>
    (st.withStatus 0).forEach o.operands fun name st =>
      if o.last? ['v', 'f'] = some 'f' then
        { st with functions := st.functions.erase (String.ofList name) }
      else st.unsetNamed name

/-! ## Options and arguments -/

/-- The options by their long names, with the letters for them; those in upper case behind
`privileged` have none that a script could write. -/
def longOptions : List (String × Char) :=
  [("errexit", 'e'), ("noglob", 'f'), ("ignoreeof", 'I'), ("interactive", 'i'), ("monitor", 'm'),
    ("noexec", 'n'), ("stdin", 's'), ("xtrace", 'x'), ("verbose", 'v'), ("vi", 'V'),
    ("emacs", 'E'), ("noclobber", 'C'), ("allexport", 'a'), ("notify", 'b'), ("nounset", 'u'),
    ("privileged", 'p'), ("nolog", 'L'), ("debug", 'D')]

/-- The letters that stand for options. -/
def optionLetters : List Char :=
  (longOptions.map Prod.snd).filter fun c => c ≠ 'L' && c ≠ 'D'

/-- Lists the options that are set, and those that are not. -/
def optionListing (st : State) : Octets :=
  "Current option settings\n".toList ++ longOptions.flatMap fun (name, c) =>
    name.toList ++ List.replicate (16 - name.length) ' ' ++
      (if st.has c then "on\n" else "off\n").toList

/-- Lists the options as commands that set them. -/
def optionCommands (st : State) : Octets :=
  longOptions.flatMap fun (name, c) =>
    (if st.has c then "set -o " else "set +o ").toList ++ name.toList ++ ['\n']

/-- Sets or clears options by letters; a letter `o` takes a long name from the arguments. -/
def setLetters (on : Bool) : Octets → List Octets → State → State × List Octets
  | [], rest, st => (st, rest)
  | 'o' :: cs, rest, st =>
    match rest with
    | [] => setLetters on cs [] (st.tell (if on then optionListing st else optionCommands st))
    | name :: rest =>
      match longOptions.find? fun o => o.1.toList = name with
      | some (_, c) => setLetters on cs rest (st.setOption c on)
      | none => (st.fail (.illegalLongOption name), rest)
  | c :: cs, rest, st =>
    if optionLetters.contains c then setLetters on cs rest (st.setOption c on)
    else (st.fail (.illegalOption c), rest)

/-- Sets options and arguments. -/
def setAll : (fuel : Nat) → List Octets → State → State
  | 0, _, st => st
  | _, [], st => st
  | fuel + 1, a :: rest, st =>
    let further := fun (on : Bool) (letters : Octets) =>
      let (st, rest) := setLetters on letters rest st
      if st.isRunning then setAll fuel rest st else st
    match a with
    | ['-', '-'] => { st.resetOptions 1 with arguments := rest }
    | ['-'] =>
      let st := (st.setOption 'x' false).setOption 'v' false
      if rest.isEmpty then st else { st.resetOptions 1 with arguments := rest }
    | '-' :: cs => further true cs
    | '+' :: cs => further false cs
    | _ => { st.resetOptions 1 with arguments := a :: rest }

/-- Sets options and arguments; without any it lists the variables. -/
def set : Builtin := fun _ arguments st =>
  let st := st.withStatus 0
  if arguments.isEmpty then st.tell (listing [] (fun v => v.value.isSome) st)
  else setAll (arguments.length + 1) arguments st

/-! ## Options of scripts -/

/-- What comes of looking for an option. -/
structure Choice where
  letter : Char
  value : Option Octets
  message : Octets
  /-- What is left of the argument that held the option. -/
  rest : Option Octets
  /-- How many arguments have been taken. -/
  taken : Nat
  isEnd : Bool

/-- Whether a letter is known, and whether it has a value. -/
def known? (c : Char) : Octets → Option Bool
  | [] => none
  | d :: ':' :: rest => if d = c then some true else known? c rest
  | d :: rest => if d = c then some false else known? c rest

/-- Looks for the next option; `text` is left of an argument that held another one. -/
def choose (known : Octets) (text : Option Octets) (arguments : List Octets) (taken : Nat) :
    Choice :=
  let isQuiet := known.head? = some ':'
  let ending := fun taken => (⟨'?', some [], [], none, taken, true⟩ : Choice)
  let found := fun (c : Char) (text : Octets) (arguments : List Octets) (taken : Nat) =>
    let rest := if text.isEmpty then none else some text
    match known? c known with
    | none =>
      if isQuiet then (⟨'?', some [c], [], rest, taken, false⟩ : Choice)
      else ⟨'?', none, "Illegal option -".toList ++ [c, '\n'], rest, taken, false⟩
    | some false => ⟨c, some [], [], rest, taken, false⟩
    | some true =>
      if !text.isEmpty then ⟨c, some text, [], none, taken, false⟩
      else match arguments with
        | value :: _ => ⟨c, some value, [], none, taken + 1, false⟩
        | [] =>
          if isQuiet then ⟨':', some [c], [], none, taken, false⟩
          else ⟨'?', none, "No arg for -".toList ++ c :: " option\n".toList, none, taken, false⟩
  match text, arguments with
  | some (c :: cs), rest => found c cs rest taken
  | _, ['-', '-'] :: _ => ending (taken + 1)
  | _, ('-' :: c :: cs) :: rest => found c cs rest (taken + 1)
  | _, _ => ending taken

/-- Looks for the next option of a script. -/
def getopts : Builtin := fun _ arguments st =>
  match arguments with
  | known :: name :: given =>
    let all := if given.isEmpty then st.arguments else given
    let st := if all.length + 1 < st.optionIndex then st.resetOptions 1 else st
    let taken := st.optionIndex - 1
    let held := st.optionPlace.bind fun place =>
      if taken = 0 then none else (all[taken - 1]?).map fun a => a.drop place
    let choice := choose known held (all.drop taken) taken
    let st := st.write 2 choice.message
    let st := if choice.isEnd then st else match choice.value with
      | some value => st.setVariable "OPTARG" value
      | none => st.removeVariable "OPTARG"
    let st := st.setVariable "OPTIND" (Octets.ofNat (choice.taken + 1))
    let st := st.assignNamed name [choice.letter]
    let place := choice.rest.bind fun rest =>
      (all[choice.taken - 1]?).map fun a => a.length - rest.length
    { st with
      optionIndex := choice.taken + 1
      optionPlace := place
      status := if st.isRunning then (if choice.isEnd then 1 else 0) else st.status }
  | _ => st.fail (.usage "Usage: getopts optstring var [arg...]")

end Builtin

end Shell

end BenchCampaign
