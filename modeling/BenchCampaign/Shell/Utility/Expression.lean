import BenchCampaign.Shell.Numeral
import BenchCampaign.Shell.Regex.Reader
import BenchCampaign.Shell.Utility.Options

/-!
# Values of arguments

An expression whose operands and operators are arguments of their own: choices,
comparisons, sums, products, and parts of texts.

* `ArgumentExpression.value`: the value of arguments, or what is wrong with them.
* `Utility.expr`: writes this value.
-/

namespace BenchCampaign

namespace Shell

namespace ArgumentExpression

/-- Why arguments have no value. -/
inductive Fault where
  | noArgument (previous : Octets)
  | unexpected (argument : Octets)
  | noOperand
  | noParenthesis (previous : Octets)
  | otherParenthesis (found : Octets)
  | notInteger
  | divisionByZero
  | badExpression (fault : RegexFault)
deriving DecidableEq, Repr

/-- A fault in words. -/
def Fault.text : Fault → Octets
  | noArgument previous => "syntax error: missing argument after ".toList ++ Work.quote previous
  | unexpected argument => "syntax error: unexpected argument ".toList ++ Work.quote argument
  | noOperand => "syntax error: unexpected ')'".toList
  | noParenthesis previous => "syntax error: expecting ')' after ".toList ++ Work.quote previous
  | otherParenthesis found => "syntax error: expecting ')' instead of ".toList ++ Work.quote found
  | notInteger => "non-integer argument".toList
  | divisionByZero => "division by zero".toList
  | badExpression fault => fault.text.toList

/-- The arguments that are left, and the one before them. -/
structure Course where
  previous : Octets
  rest : List Octets

/-- Works out a value; what does not matter is not worked out. -/
abbrev Evaluation := StateT Course (Except Fault) Octets

/-- Takes an argument. -/
def next : StateT Course (Except Fault) Octets := fun c =>
  match c.rest with
  | [] => .error (.noArgument c.previous)
  | a :: rest => .ok (a, ⟨a, rest⟩)

/-- Takes an argument if it is one of some operators. -/
def operator? (ops : List String) : StateT Course (Except Fault) (Option String) := fun c =>
  match c.rest with
  | a :: rest =>
    let s := String.ofList a
    .ok (if ops.contains s then (some s, ⟨a, rest⟩) else (none, c))
  | [] => .ok (none, c)

/-- The whole number that a text is. -/
def integer? : Octets → Option Int
  | '-' :: ds => (Octets.natural? ds).map fun n => -(n : Int)
  | ds => (Octets.natural? ds).map Int.ofNat

/-- Whether a value counts as nothing: no text, or zero. -/
def isNull (v : Octets) : Bool :=
  match v with
  | [] => true
  | '-' :: ds => !ds.isEmpty && ds.all (· = '0')
  | ds => ds.all (· = '0')

/-- The value of what holds or not. -/
def truth (b : Bool) : Octets := if b then ['1'] else ['0']

/-- How much of a text an expression accepts from its beginning, or the part in its group. -/
def accepted (text pattern : Octets) : Except Fault Octets := do
  match Regex.read ⟨false, false, false⟩ pattern with
  | .error fault => .error (.badExpression fault)
  | .ok r =>
    let s : Regex.Subject := ⟨text.toArray, false, false⟩
    let hasGroup := hasOpening pattern
    match r.findAt? s (fun _ _ => true) 0 with
    | some m => return if hasGroup then m.text s 1 else Octets.ofNat m.stop
    | none => return if hasGroup then [] else ['0']
where
  /-- Whether a group is opened anywhere. -/
  hasOpening : Octets → Bool
    | '\\' :: '(' :: _ => true
    | '\\' :: _ :: rest => hasOpening rest
    | _ :: rest => hasOpening rest
    | [] => false

/-- The place of the first character of a text that is one of some others. -/
def indexOf (text set : Octets) : Nat :=
  let k := (text.takeWhile fun c => !set.contains c).length
  if k < text.length then k + 1 else 0

/-- A part of a text. -/
def part (text position length : Octets) : Octets :=
  match integer? position, integer? length with
  | some p, some n => if p ≤ 0 || n ≤ 0 then [] else (text.drop (p.toNat - 1)).take n.toNat
  | _, _ => []

/-- An argument, or an expression in parentheses. -/
def atom (inner : Bool → Evaluation) (matters : Bool) : Evaluation := do
  let a ← next
  if a = ['('] then
    let v ← inner matters
    let c ← get
    match c.rest with
    | [')'] :: rest =>
      set (⟨[')'], rest⟩ : Course)
      return v
    | found :: _ => fun _ => .error (.otherParenthesis found)
    | [] => fun _ => .error (.noParenthesis c.previous)
  else if a = [')'] then fun _ => .error .noOperand
  else return a

/-- A part of a text that a word asks for, or an atom. -/
def keyword (inner : Bool → Evaluation) : (fuel : Nat) → (matters : Bool) → Evaluation
  | 0, matters => atom inner matters
  | fuel + 1, matters => do
    match ← operator? ["+", "length", "match", "index", "substr"] with
    | some "+" => next
    | some "length" => return Octets.ofNat (← keyword inner fuel matters).length
    | some "match" =>
      let text ← keyword inner fuel matters
      let pattern ← keyword inner fuel matters
      if matters then accepted text pattern else return text
    | some "index" =>
      let text ← keyword inner fuel matters
      let set ← keyword inner fuel matters
      return Octets.ofNat (indexOf text set)
    | some _ =>
      let text ← keyword inner fuel matters
      let position ← keyword inner fuel matters
      let length ← keyword inner fuel matters
      return part text position length
    | none => atom inner matters

/-- The value of an operator between two values. -/
def operate (op : String) (a b : Octets) : Except Fault Octets :=
  let numbers (f : Int → Int → Except Fault Octets) : Except Fault Octets :=
    match integer? a, integer? b with
    | some m, some n => f m n
    | _, _ => .error .notInteger
  let order : Ordering :=
    match integer? a, integer? b with
    | some m, some n => compare m n
    | _, _ => compare (String.ofList a) (String.ofList b)
  match op with
  | "+" => numbers fun m n => .ok (Octets.ofInt (m + n))
  | "-" => numbers fun m n => .ok (Octets.ofInt (m - n))
  | "*" => numbers fun m n => .ok (Octets.ofInt (m * n))
  | "/" => numbers fun m n =>
    if n = 0 then .error .divisionByZero else .ok (Octets.ofInt (m.tdiv n))
  | "%" => numbers fun m n =>
    if n = 0 then .error .divisionByZero else .ok (Octets.ofInt (m.tmod n))
  | ":" => accepted a b
  | "<" => .ok (truth (order == .lt))
  | "<=" => .ok (truth (order != .gt))
  | ">" => .ok (truth (order == .gt))
  | ">=" => .ok (truth (order != .lt))
  | "!=" => .ok (truth (order != .eq))
  | _ => .ok (truth (order == .eq))

/-- The operators between two values by how tightly they bind, the loosest first. -/
def levels : List (List String) :=
  [["<", "<=", "=", "==", "!=", ">=", ">"], ["+", "-"], ["*", "/", "%"], [":"]]

/-- Operators of one level behind a value, grouped to the left. -/
def chain (tighter : Evaluation) (ops : List String) (matters : Bool) :
    (fuel : Nat) → Octets → Evaluation
  | 0, a => return a
  | fuel + 1, a => do
    match ← operator? ops with
    | none => return a
    | some op =>
      let b ← tighter
      if !matters then chain tighter ops matters fuel a
      else match operate op a b with
        | .ok v => chain tighter ops matters fuel v
        | .error fault => fun _ => .error fault

/-- Operators of some levels. -/
def level (tightest : Evaluation) (matters : Bool) : List (List String) → Evaluation
  | [] => tightest
  | ops :: rest => do
    let a ← level tightest matters rest
    chain (level tightest matters rest) ops matters ((← get).rest.length + 1) a

/-- Values that all count as something, or zero. -/
def conjunction (plain : Bool → Evaluation) (matters : Bool) : (fuel : Nat) → Octets → Evaluation
  | 0, a => return a
  | fuel + 1, a => do
    match ← operator? ["&"] with
    | none => return a
    | some _ =>
      let b ← plain (matters && !isNull a)
      conjunction plain matters fuel (if isNull a || isNull b then ['0'] else a)

/-- The first value that counts as something, or zero. -/
def disjunction (plain : Bool → Evaluation) (matters : Bool) : (fuel : Nat) → Octets → Evaluation
  | 0, a => return a
  | fuel + 1, a => do
    match ← operator? ["|"] with
    | none => return a
    | some _ =>
      let b ← plain (matters && isNull a)
      disjunction plain matters fuel (if !isNull a then a else if isNull b then ['0'] else b)

/-- A whole expression. -/
def whole : (fuel : Nat) → (matters : Bool) → Evaluation
  | 0, _ => next
  | fuel + 1, matters => do
    let size := (← get).rest.length + 1
    let plain := fun matters => level (keyword (whole fuel) size matters) matters levels
    let both := fun matters => do
      let a ← plain matters
      conjunction plain matters size a
    let a ← both matters
    disjunction both matters size a

/-- The value of arguments, or what is wrong with them. -/
def value (arguments : List Octets) : Except Fault Octets :=
  match (whole (arguments.length + 1) true).run ⟨[], arguments⟩ with
  | .error fault => .error fault
  | .ok (v, c) =>
    match c.rest with
    | [] => .ok v
    | a :: _ => .error (.unexpected a)

end ArgumentExpression

namespace Utility

/-- Writes the value of its arguments. -/
def expr : Utility := fun arguments =>
  let arguments := if arguments.head? = some ['-', '-'] then arguments.drop 1 else arguments
  if arguments.isEmpty then Work.usage 2 Work.missingOperand
  else match ArgumentExpression.value arguments with
    | .error fault => Work.complain 2 fault.text
    | .ok v => do
      Work.printLine v
      Work.setStatus (if ArgumentExpression.isNull v then 1 else 0)

end Utility

end Shell

end BenchCampaign
