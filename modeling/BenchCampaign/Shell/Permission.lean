import BenchCampaign.Shell.Numeral

/-!
# Permissions

Permissions are given in octal digits or as changes of those that are there, such
as `u+x,g=r`.

* `Permission.changed?`: the permissions that a text asks for.
* `Permission.letters`: permissions as they are shown.
-/

namespace BenchCampaign

namespace Shell

namespace Permission

/-- How permissions are combined with those that are there. -/
inductive Operator where
  | add
  | remove
  | set
deriving DecidableEq, Repr

/-- The operator of a character. -/
def operator? : Char → Option Operator
  | '+' => some .add
  | '-' => some .remove
  | '=' => some .set
  | _ => none

/-- The bits of the users that a character stands for. -/
def users? : Char → Option Nat
  | 'u' => some 0o4700
  | 'g' => some 0o2070
  | 'o' => some 0o0007
  | 'a' => some 0o6777
  | _ => none

/-- One set of three bits for all users. -/
def forAll (bits : Nat) : Nat := bits * 0o111

/-- The bits that a character stands for, from the permissions that are there. -/
def bits? (isDirectory : Bool) (mode : Nat) : Char → Option Nat
  | 'r' => some 0o444
  | 'w' => some 0o222
  | 'x' => some 0o111
  | 'X' => some (if isDirectory || mode &&& 0o111 ≠ 0 then 0o111 else 0)
  | 's' => some 0o6000
  | 't' => some 0o1000
  | 'u' => some (forAll (mode / 0o100 % 8))
  | 'g' => some (forAll (mode / 8 % 8))
  | 'o' => some (forAll (mode % 8))
  | _ => none

/-- The permissions after a change; what is set in place of others leaves those of other
users. -/
def combine (op : Operator) (affected others bits mode : Nat) : Nat :=
  let bits := bits &&& affected
  match op with
  | .add => mode ||| bits
  | .remove => mode &&& (0o7777 - bits)
  | .set => (mode &&& others) ||| bits

/-- The changes of one clause behind its users. -/
def actions (isDirectory : Bool) (affected others : Nat) : (fuel : Nat) → Octets → Nat → Option Nat
  | 0, _, _ => none
  | _, [], mode => some mode
  | fuel + 1, c :: rest, mode =>
    match operator? c with
    | none => none
    | some op =>
      let named := rest.takeWhile fun d => (operator? d).isNone
      let bits := named.foldl (fun sum d =>
        sum.bind fun n => (bits? isDirectory mode d).map fun b => n ||| b) (some 0)
      bits.bind fun b =>
        actions isDirectory affected others fuel (rest.drop named.length)
          (combine op affected others b mode)

/-- The permissions after one clause; without users a clause is for all, but leaves the bits
of a mask. -/
def clause (mask : Nat) (isDirectory : Bool) (text : Octets) (mode : Nat) : Option Nat :=
  let users := text.takeWhile fun c => (users? c).isSome
  let rest := text.drop users.length
  let affected :=
    if users.isEmpty then 0o7777 - mask % 0o1000
    else users.foldl (fun n c => n ||| (users? c).getD 0) 0o1000
  let others := if users.isEmpty then 0 else 0o7777 - affected
  if rest.isEmpty then none else actions isDirectory affected others (rest.length + 1) rest mode

/-- The clauses of a text. -/
def clauses : Octets → List Octets
  | [] => [[]]
  | ',' :: rest => [] :: clauses rest
  | c :: rest => match clauses rest with
    | [] => [[c]]
    | cl :: others => (c :: cl) :: others

/-- The permissions that a text asks for in place of others. -/
def changed? (mask : Nat) (isDirectory : Bool) (text : Octets) (mode : Nat) : Option Nat :=
  if !text.isEmpty && text.all Numeral.isOctal then
    let n := Numeral.ofDigits 8 text
    if n ≤ 0o7777 then some n else none
  else
    (clauses text).foldl (fun mode cl => mode.bind (clause mask isDirectory cl)) (some mode)

/-- Three bits as they are shown; `special` is shown in place of the right to execute. -/
def triple (bits : Nat) (special : Option (Char × Char)) : Octets :=
  let isExecutable := bits % 2 = 1
  let last := match special with
    | none => if isExecutable then 'x' else '-'
    | some (on, off) => if isExecutable then on else off
  [if bits / 4 % 2 = 1 then 'r' else '-', if bits / 2 % 2 = 1 then 'w' else '-', last]

/-- Permissions as they are shown. -/
def letters (mode : Nat) : Octets :=
  let special := fun (bit : Nat) (on off : Char) => if mode &&& bit ≠ 0 then some (on, off) else none
  triple (mode / 0o100 % 8) (special 0o4000 's' 'S') ++
    triple (mode / 8 % 8) (special 0o2000 's' 'S') ++ triple (mode % 8) (special 0o1000 't' 'T')

end Permission

end Shell

end BenchCampaign
