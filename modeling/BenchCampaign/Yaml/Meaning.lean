import BenchCampaign.Decimal.Reading
import BenchCampaign.Json.Reader
import BenchCampaign.Yaml.Node

/-!
# What scalars mean

The text of a plain scalar may mean nothing, a truth value, a whole number in
one of four bases, or a number with a fraction.  Digits with a leading zero are
no number.

* `Meaning.isNull`, `Meaning.bool?`, `Meaning.natural?`, `Meaning.negative?`,
  `Meaning.float?`.
* `Node.text?`, `Node.natural?`, `Node.bool?`, `Node.float?`, `Node.items?`: the
  value of a node of which the kind is known.
-/

namespace BenchCampaign

namespace Yaml

namespace Meaning

/-- Whether a text means nothing. -/
def isNull (s : String) : Bool := ["null", "Null", "NULL", "~"].contains s

/-- The truth value of a text. -/
def bool? (s : String) : Option Bool :=
  if ["true", "True", "TRUE"].contains s then some true
  else if ["false", "False", "FALSE"].contains s then some false
  else none

/-- The value of a digit in a base up to sixteen. -/
def digit? (base : Nat) (c : Char) : Option Nat :=
  (Json.hexDigit? c).bind fun d => if d < base then some d else none

/-- The number that at least one digit spells in a base. -/
def inBase? (base : Nat) (cs : List Char) : Option Nat :=
  if cs.isEmpty then none
  else cs.foldl (fun n c => n.bind fun n => (digit? base c).map fun d => n * base + d) (some 0)

/-- The number of an unsigned text, with the base as a mark in front. -/
def unsigned? : List Char → Option Nat
  | '0' :: 'x' :: ds => inBase? 16 ds
  | '0' :: 'o' :: ds => inBase? 8 ds
  | '0' :: 'b' :: ds => inBase? 2 ds
  | ds => inBase? 10 ds

/-- Takes one sign off. -/
def dropSign : List Char → List Char
  | '+' :: rest => rest
  | '-' :: rest => rest
  | rest => rest

/-- Whether a text looks like a number but has a leading zero. -/
def hasLeadingZero (cs : List Char) : Bool :=
  match dropSign cs with
  | '0' :: d :: ds => (d :: ds).all Char.isDigit
  | _ => false

/-- The natural number of a text, which may have a plus sign. -/
def natural? (s : String) : Option Nat :=
  let cs := s.toList
  if hasLeadingZero cs then none
  else unsigned? (match cs with
    | '+' :: rest => rest
    | rest => rest)

/-- The size of the number of a text with a minus sign. -/
def negative? (s : String) : Option Nat :=
  let cs := s.toList
  if hasLeadingZero cs then none
  else match cs with
    | '-' :: rest => unsigned? rest
    | _ => none

/-- The finite number of a decimal text. -/
def decimal? (cs : List Char) : Option Float :=
  (Decimal.read? cs).bind fun x => if x.isFinite then some x else none

/-- The number of a text; infinities and what is no number have names of their own. -/
def float? (s : String) : Option Float :=
  if [".inf", ".Inf", ".INF", "+.inf", "+.Inf", "+.INF"].contains s then some (1.0 / 0.0)
  else if ["-.inf", "-.Inf", "-.INF"].contains s then some (-1.0 / 0.0)
  else if [".nan", ".NaN", ".NAN"].contains s then some (0.0 / 0.0)
  else match s.toList with
    | '+' :: c :: rest => if c = '+' || c = '-' then none else decimal? (c :: rest)
    | cs => decimal? cs

end Meaning

namespace Node

/-! ## Nodes of a known kind -/

/-- Whether nothing is written, which stands for any empty collection. -/
def isEmptyScalar : Node → Bool
  | scalar _ style text => style = .plain && text.isEmpty
  | _ => false

/-- The text of a scalar, whatever it means. -/
def text? : Node → Option String
  | scalar _ _ text => some text
  | _ => none

/-- The text of a scalar that may mean something else than itself: a plain one, or a
block of lines with the tag of that meaning. -/
def meaningful? (meaning : String) : Node → Option String
  | scalar _ .plain text => some text
  | scalar (some t) .literal text => if t = NodeTag.standard meaning then some text else none
  | _ => none

/-- A natural number below a bound. -/
def natural? (bound : Nat) (n : Node) : Option Nat :=
  ((n.meaningful? "int").bind Meaning.natural?).bind fun k => if k < bound then some k else none

/-- A truth value. -/
def bool? (n : Node) : Option Bool := (n.meaningful? "bool").bind Meaning.bool?

/-- A number. -/
def float? (n : Node) : Option Float := (n.meaningful? "float").bind Meaning.float?

/-- The items of a sequence. -/
def items? : Node → Option (List Node)
  | sequence _ items => some items
  | n => if n.isEmptyScalar then some [] else none

/-- The entries of a mapping. -/
def entries? : Node → Option (List (Node × Node))
  | mapping _ entries => some entries
  | n => if n.isEmptyScalar then some [] else none

/-- A list of values of one kind. -/
def list? {β : Type} (decode : Node → Option β) (n : Node) : Option (List β) :=
  n.items?.bind fun items => items.mapM decode

end Node

end Yaml

end BenchCampaign
