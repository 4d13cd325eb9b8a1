import BenchCampaign.Host.FileTree
import BenchCampaign.Shell.Complaint
import BenchCampaign.Shell.Numeral

/-!
# Conditions

The conditions that a script can test: of texts, of numbers, and of files.  Up
to four arguments have their meaning by their number; more of them are read as
an expression of connectives.

* `Condition.test`: whether a condition holds, or why it is none.
-/

namespace BenchCampaign

namespace Shell

namespace Condition

/-! ## Operators -/

/-- The kinds of operators. -/
inductive OperatorKind where
  | unary
  | binary
  | negation
  | conjunction
  | disjunction
  | opening
  | closing
deriving DecidableEq, Repr

/-- The operators about one text or file. -/
def unaryOperators : List String :=
  ["-r", "-w", "-x", "-e", "-f", "-d", "-c", "-b", "-p", "-u", "-g", "-k", "-s", "-t", "-z", "-n",
    "-h", "-O", "-G", "-L", "-S"]

/-- The operators between two texts or numbers. -/
def binaryOperators : List String :=
  ["=", "!=", "<", ">", "-eq", "-ne", "-ge", "-gt", "-le", "-lt", "-nt", "-ot", "-ef"]

/-- The kind of an operator. -/
def kind? (text : Octets) : Option OperatorKind :=
  let s := String.ofList text
  if unaryOperators.contains s then some .unary
  else if binaryOperators.contains s then some .binary
  else match s with
    | "!" => some .negation
    | "-a" => some .conjunction
    | "-o" => some .disjunction
    | "(" => some .opening
    | ")" => some .closing
    | _ => none

/-! ## Questions -/

/-- What is tested in. -/
structure Setting where
  host : Host
  /-- Whether two paths lead to the same file. -/
  isSame : Octets → Octets → Bool

/-- The number that a text stands for. -/
def number (text : Octets) : Except Complaint Int :=
  match Numeral.decimal? text with
  | some n => .ok n
  | none => .error (.illegalNumber text)

/-- The answer to a question about two texts or numbers. -/
def binary (s : Setting) (op : String) (a b : Octets) : Except Complaint Bool :=
  let numbers (f : Int → Int → Bool) : Except Complaint Bool := do
    let m ← number a
    let n ← number b
    return f m n
  match op with
  | "=" => .ok (a == b)
  | "!=" => .ok (a != b)
  | "<" => .ok (decide (String.ofList a < String.ofList b))
  | ">" => .ok (decide (String.ofList b < String.ofList a))
  | "-eq" => numbers fun m n => m = n
  | "-ne" => numbers fun m n => m ≠ n
  | "-lt" => numbers fun m n => m < n
  | "-le" => numbers fun m n => m ≤ n
  | "-gt" => numbers fun m n => n < m
  | "-ge" => numbers fun m n => n ≤ m
  | "-ef" => .ok (s.isSame a b)
  | _ => .ok false

/-- Whether a file has something in it. -/
def isNotEmpty : Option Entry → Bool
  | some (.file f) => !f.content.toBytes.isEmpty
  | some .directory => true
  | _ => false

/-- Whether a file has some of the bits of a mode. -/
def hasMode (bits : Nat) : Option Entry → Bool
  | some (.file f) => f.mode &&& bits ≠ 0
  | _ => false

/-- The answer to a question about one text, or about the file of that name. -/
def unary (s : Setting) (op : String) (a : Octets) : Except Complaint Bool :=
  let entry := s.host.entry? (Octets.toText a)
  match op with
  | "-n" => .ok (!a.isEmpty)
  | "-z" => .ok a.isEmpty
  | "-f" => .ok (match entry with
    | some (.file _) => true
    | _ => false)
  | "-d" => .ok (entry == some .directory)
  | "-c" => .ok (match entry with
    | some (.device _) => true
    | _ => false)
  | "-s" => .ok (isNotEmpty entry)
  | "-x" => .ok (hasMode 0o111 entry || entry == some .directory)
  | "-u" => .ok (hasMode 0o4000 entry)
  | "-g" => .ok (hasMode 0o2000 entry)
  | "-k" => .ok (hasMode 0o1000 entry)
  | "-t" => (number a).map fun _ => false
  | _ =>
    if ["-e", "-r", "-w", "-O", "-G"].contains op then .ok entry.isSome else .ok false

/-! ## Expressions -/

/-- Whether an operand stands in front of arguments, and not an operator. -/
def isOperand : List Octets → Bool
  | [] => true
  | [_] => false
  | a :: _ :: _ => kind? a == some .binary

/-- The operator that arguments begin with. -/
def operator? : List Octets → Option OperatorKind
  | [] => none
  | a :: rest =>
    match kind? a with
    | some .unary => if isOperand rest then none else some .unary
    | some .opening => if rest.isEmpty then none else some .opening
    | k => k

/-- Tests arguments from a place on: whether they hold, and the place of the last one that
was looked at. -/
abbrev Testing := List Octets → Except Complaint (Bool × List Octets)

/-- A condition without connectives; `whole` tests what is in parentheses. -/
def primary (s : Setting) (whole : Testing) (isOperandFirst : Bool) : Testing := fun place =>
  let first := place.head?.getD []
  match place, if isOperandFirst then none else operator? place with
  | [], _ => .ok (false, [])
  | _, some .opening =>
    let inside := place.drop 1
    if operator? inside = some .closing then .ok (false, inside)
    else do
      let (b, last) ← whole inside
      let after := last.drop 1
      if operator? after = some .closing then return (b, after) else .error .noClosing
  | _, some .unary =>
    match place.drop 1 with
    | [] => .error (.noOperand first)
    | a :: rest => (unary s (String.ofList first) a).map fun b => (b, a :: rest)
  | _, _ =>
    match place.drop 1 with
    | op :: rest =>
      if operator? (op :: rest) = some .binary then
        match rest with
        | [] => .error (.noOperand op)
        | b :: more =>
          (binary s (String.ofList op) first b).map fun r => (r, b :: more)
      else .ok (!first.isEmpty, place)
    | [] => .ok (!first.isEmpty, place)

/-- A condition that may be negated. -/
def negated (s : Setting) (whole : Testing) : (fuel : Nat) → (isOperandFirst : Bool) → Testing
  | 0, _ => primary s whole true
  | fuel + 1, isOperandFirst => fun place =>
    if !isOperandFirst && operator? place = some .negation then
      let rest := place.drop 1
      if rest.isEmpty then .ok (true, place)
      else (negated s whole fuel false rest).map fun r => (!r.1, r.2)
    else primary s whole isOperandFirst place

/-- Conditions that have to hold together. -/
def conjunction (s : Setting) (whole : Testing) : (fuel : Nat) → (isOperandFirst : Bool) → Testing
  | 0, isOperandFirst => negated s whole 0 isOperandFirst
  | fuel + 1, isOperandFirst => fun place => do
    let (a, last) ← negated s whole (place.length + 1) isOperandFirst place
    if operator? (last.drop 1) = some .conjunction then
      let (b, last) ← conjunction s whole fuel false (last.drop 2)
      return (a && b, last)
    else return (a, last)

/-- Conditions of which one has to hold. -/
def disjunction (s : Setting) : (fuel : Nat) → (isOperandFirst : Bool) → Testing
  | 0, _ => fun place => .ok (false, place)
  | fuel + 1, isOperandFirst => fun place => do
    let whole := disjunction s fuel false
    let (a, last) ← conjunction s whole (place.length + 1) isOperandFirst place
    if operator? (last.drop 1) = some .disjunction then
      let (b, last) ← disjunction s fuel false (last.drop 2)
      return (a || b, last)
    else return (a, last)

/-- The value of arguments that are one expression. -/
def expression (s : Setting) (isOperandFirst : Bool) (arguments : List Octets) :
    Except Complaint Bool := do
  let (b, last) ← disjunction s (arguments.length + 1) isOperandFirst arguments
  match last with
  | a :: _ :: _ => .error (.unexpectedOperator a)
  | _ => return b

/-- Whether a condition holds, or does not hold if it is negated. -/
def signed (s : Setting) : (fuel : Nat) → (isNegated : Bool) → List Octets → Except Complaint Bool
  | 0, isNegated, _ => .ok isNegated
  | fuel + 1, isNegated, arguments =>
    let value (isOperandFirst : Bool) (arguments : List Octets) : Except Complaint Bool :=
      (expression s isOperandFirst arguments).map (· != isNegated)
    let grouped : Unit → Except Complaint Bool := fun _ =>
      if arguments.head? = some ['('] && arguments.getLast? = some [')'] then
        value false (arguments.drop 1).dropLast
      else if arguments.head? = some ['!'] then signed s fuel true (arguments.drop 1)
      else value false arguments
    match arguments with
    | [] => .ok isNegated
    | [_, op, _] => if kind? op = some .binary then value true arguments else grouped ()
    | [_, _, _, _] => grouped ()
    | _ => value false arguments

/-- Whether a condition holds; none at all does not. -/
def test (s : Setting) (arguments : List Octets) : Except Complaint Bool :=
  signed s (arguments.length + 1) false arguments

end Condition

end Shell

end BenchCampaign
