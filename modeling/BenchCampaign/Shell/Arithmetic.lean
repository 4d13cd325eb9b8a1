import BenchCampaign.Shell.Complaint
import BenchCampaign.Shell.Numeral

/-!
# Arithmetic in scripts

Expressions over whole numbers of 64 bits, with the operators, precedences and
assignments of the C language.  An expression is worked out while it is read; a
part whose value does not matter is read, but neither divides nor assigns.

* `Arithmetic.value`: the value of an expression, and the variables that it assigned.
-/

namespace BenchCampaign

namespace Shell

namespace Arithmetic

/-! ## Tokens -/

/-- A part of an expression's text. -/
inductive Token where
  | number (n : Int)
  | name (s : String)
  | sign (s : String)
  /-- A character that no expression has. -/
  | unknown (c : Char)
deriving DecidableEq, Repr

/-- The operators, longer ones before those that they begin with. -/
def signs : List String :=
  ["<<=", ">>=", "<<", ">>", "<=", ">=", "==", "!=", "&&", "||", "+=", "-=", "*=", "/=", "%=",
    "&=", "|=", "^=", "+", "-", "*", "/", "%", "<", ">", "=", "!", "~", "&", "|", "^", "?", ":",
    "(", ")"]

/-- The tokens of a text. -/
def tokens : (fuel : Nat) → Octets → List Token
  | 0, _ => []
  | _, [] => []
  | fuel + 1, c :: rest =>
    let text := c :: rest
    let part := fun d : Char => d.isAlphanum || d = '_'
    if c = ' ' || c = '\t' || c = '\n' then tokens fuel rest
    else if c.isAlpha || c = '_' then
      .name (String.ofList (text.takeWhile part)) :: tokens fuel (text.dropWhile part)
    else match if c.isDigit then Numeral.leading? text else none with
      | some (n, rest) => .number (Numeral.clamp n) :: tokens fuel rest
      | none =>
        match signs.find? fun s => s.toList.isPrefixOf text with
        | some s => .sign s :: tokens fuel (text.drop s.length)
        | none => .unknown c :: tokens fuel rest

/-! ## Values -/

/-- The number of 64 bits that a number wraps to. -/
def wrap (n : Int) : Int := n.bmod UInt64.size

/-- One for what holds. -/
def truth (b : Bool) : Int := if b then 1 else 0

/-- The bits of a number of 64 bits. -/
def bits (n : Int) : Nat := (n.emod UInt64.size).toNat

/-- The value of an operator, unless it divides by zero. -/
def operate? (op : String) (a b : Int) : Option Int :=
  match op with
  | "*" => some (wrap (a * b))
  | "/" => if b = 0 then none else some (wrap (a.tdiv b))
  | "%" => if b = 0 then none else some (wrap (a.tmod b))
  | "+" => some (wrap (a + b))
  | "-" => some (wrap (a - b))
  | "<<" => some (wrap (a * (Nat.pow 2 (bits b % 64) : Nat)))
  | ">>" => some (a.fdiv (Nat.pow 2 (bits b % 64) : Nat))
  | "<" => some (truth (a < b))
  | "<=" => some (truth (a ≤ b))
  | ">" => some (truth (b < a))
  | ">=" => some (truth (b ≤ a))
  | "==" => some (truth (a = b))
  | "!=" => some (truth (a ≠ b))
  | "&" => some (wrap (bits a &&& bits b))
  | "^" => some (wrap (bits a ^^^ bits b))
  | "|" => some (wrap (bits a ||| bits b))
  | _ => none

/-! ## Working out -/

/-- Why an expression has no value. -/
inductive Fault where
  | cause (c : ArithmeticCause)
  /-- A variable holds something that is no number. -/
  | illegalNumber (text : Octets)
deriving DecidableEq, Repr

/-- What is left to be read, and the variables that were assigned, the last one first. -/
structure Course where
  tokens : List Token
  assigned : List (String × Int)

/-- Works out a part of an expression. -/
abbrev Evaluation := StateT Course (Except Fault) Int

/-- The values that variables have before. -/
abbrev Lookup := String → Option Octets

/-- Gives up. -/
def refuse (c : ArithmeticCause) : Evaluation := fun _ => .error (.cause c)

/-- The value of a text that a variable holds; no text is zero. -/
def number (text : Octets) : Except Fault Int :=
  if text.all Numeral.isSpace then .ok 0
  else match Numeral.whole? text with
    | some n => .ok n
    | none => .error (.illegalNumber text)

/-- The value of a variable. -/
def variableValue (lookup : Lookup) (name : String) : Evaluation := fun c =>
  match (c.assigned.find? fun v => v.1 = name).map Prod.snd with
  | some n => .ok (n, c)
  | none => (number ((lookup name).getD [])).map fun n => (n, c)

/-- The value of an operator; one that does not matter is zero. -/
def operation (isSkipped : Bool) (op : String) (a b : Int) : Evaluation :=
  if isSkipped then return 0
  else match operate? op a b with
    | some n => return n
    | none => refuse .divisionByZero

/-- Takes a token if it is one of some signs, and tells which. -/
def sign? (ops : List String) : StateT Course (Except Fault) (Option String) := fun c =>
  match c.tokens with
  | .sign s :: rest => .ok (if ops.contains s then (some s, { c with tokens := rest }) else (none, c))
  | _ => .ok (none, c)

/-- The operators between two operands by how tightly they bind, the loosest first. -/
def levels : List (List String) :=
  [["|"], ["^"], ["&"], ["==", "!="], ["<", "<=", ">", ">="], ["<<", ">>"], ["+", "-"],
    ["*", "/", "%"]]

/-- The operators that assign. -/
def assignments : List String :=
  ["=", "+=", "-=", "*=", "/=", "%=", "<<=", ">>=", "&=", "|=", "^="]

/-- A number, a variable, or an expression in parentheses, behind signs; `inner` works out a
whole expression. -/
def operand (lookup : Lookup) (inner : Bool → Evaluation) (isSkipped : Bool) :
    (fuel : Nat) → Evaluation
  | 0 => refuse .noOperand
  | fuel + 1 => fun c =>
    let rest := { c with tokens := c.tokens.drop 1 }
    let again := operand lookup inner isSkipped fuel
    match c.tokens.head? with
    | some (.number n) => .ok (n, rest)
    | some (.name s) => if isSkipped then .ok (0, rest) else variableValue lookup s rest
    | some (.sign "(") =>
      match inner isSkipped rest with
      | .error fault => .error fault
      | .ok (n, after) =>
        match after.tokens with
        | .sign ")" :: more => .ok (n, { after with tokens := more })
        | _ => refuse .noParenthesis after
    | some (.sign "+") => again rest
    | some (.sign "-") => (again rest).map fun r => (wrap (-r.1), r.2)
    | some (.sign "!") => (again rest).map fun r => (truth (r.1 = 0), r.2)
    | some (.sign "~") => (again rest).map fun r => (wrap (-r.1 - 1), r.2)
    | _ => refuse .noOperand c

/-- Operators of one level behind a value, grouped to the left. -/
def chain (isSkipped : Bool) (tighter : Evaluation) (ops : List String) :
    (fuel : Nat) → Int → Evaluation
  | 0, a => return a
  | fuel + 1, a => do
    match ← sign? ops with
    | none => return a
    | some op =>
      let b ← tighter
      chain isSkipped tighter ops fuel (← operation isSkipped op a b)

/-- Operators of some levels. -/
def level (isSkipped : Bool) (operand : Evaluation) : List (List String) → Evaluation
  | [] => operand
  | ops :: tighter => do
    let a ← level isSkipped operand tighter
    chain isSkipped (level isSkipped operand tighter) ops ((← get).tokens.length + 1) a

/-- Values that all have to hold. -/
def conjunction (plain : Bool → Evaluation) : (fuel : Nat) → (isSkipped : Bool) → Evaluation
  | 0, isSkipped => plain isSkipped
  | fuel + 1, isSkipped => do
    let a ← plain isSkipped
    match ← sign? ["&&"] with
    | none => return a
    | some _ =>
      let b ← conjunction plain fuel (isSkipped || a = 0)
      return truth (a ≠ 0 && b ≠ 0)

/-- Values of which one has to hold. -/
def disjunction (plain : Bool → Evaluation) : (fuel : Nat) → (isSkipped : Bool) → Evaluation
  | 0, isSkipped => plain isSkipped
  | fuel + 1, isSkipped => do
    let a ← plain isSkipped
    match ← sign? ["||"] with
    | none => return a
    | some _ =>
      let b ← disjunction plain fuel (isSkipped || a ≠ 0)
      return truth (a ≠ 0 || b ≠ 0)

/-- A value, or one of two that it chooses; `inner` works out a whole expression. -/
def conditional (inner plain : Bool → Evaluation) : (fuel : Nat) → (isSkipped : Bool) → Evaluation
  | 0, isSkipped => plain isSkipped
  | fuel + 1, isSkipped => do
    let a ← plain isSkipped
    match ← sign? ["?"] with
    | none => return a
    | some _ =>
      let b ← inner (isSkipped || a = 0)
      match ← sign? [":"] with
      | none => refuse .noColon
      | some _ =>
        let c ← conditional inner plain fuel (isSkipped || a ≠ 0)
        return if a ≠ 0 then b else c

/-- Gives a variable a value by an operator of `assignments`. -/
def assign (lookup : Lookup) (name op : String) (n : Int) : Evaluation := do
  let value ←
    if op = "=" then pure n
    else
      let old ← variableValue lookup name
      operation false (String.ofList op.toList.dropLast) old n
  modify fun c => { c with assigned := (name, value) :: c.assigned }
  return value

/-- A whole expression. -/
def expression (lookup : Lookup) : (fuel : Nat) → (isSkipped : Bool) → Evaluation
  | 0, _ => refuse .noOperand
  | fuel + 1, isSkipped => fun c =>
    let inner := expression lookup fuel
    let size := c.tokens.length + 1
    let plain := fun isSkipped =>
      level isSkipped (operand lookup inner isSkipped size) levels
    let other : Unit → Except Fault (Int × Course) := fun _ =>
      conditional inner (disjunction (conjunction plain size) size) size isSkipped c
    match c.tokens with
    | .name s :: .sign op :: rest =>
      if assignments.contains op then
        match inner isSkipped { c with tokens := rest } with
        | .error fault => .error fault
        | .ok (n, after) => if isSkipped then .ok (n, after) else assign lookup s op n after
      else other ()
    | _ => other ()

/-- The value of an expression, and the variables that it assigned, in order. -/
def value (lookup : Lookup) (text : Octets) : Except Fault (Int × List (String × Int)) :=
  let ts := tokens (text.length + 1) text
  match expression lookup (ts.length + 1) false ⟨ts, []⟩ with
  | .error fault => .error fault
  | .ok (n, c) => if c.tokens.isEmpty then .ok (n, c.assigned.reverse) else .error (.cause .noEnd)

end Arithmetic

end Shell

end BenchCampaign
