import BenchCampaign.Decimal.Text
import BenchCampaign.Text.Quoted
import BenchCampaign.Yaml.Meaning

/-!
# Values of any kind

Where a document may hold anything, the text of a plain scalar decides what the
scalar is.  A standard tag forces one meaning; a tag of the document's own is
kept in front of the value.  The keys of a mapping are different values.

* `Value.ofNode?`: the value of a tree.
* `Value.same`: whether two values are equal; mappings are compared without order.
* `Value.describe`: a value in words.
-/

namespace BenchCampaign

namespace Yaml

/-- A number: a whole one within 64 bits, or one with a fraction. -/
inductive Number where
  | natural (n : Nat)
  | negative (n : Int)
  | float (x : Float)
deriving Repr

namespace Number

/-- The nearest number with a fraction. -/
def toFloat : Number → Float
  | natural n => Binary64.nearest false n 1
  | negative n => Binary64.nearest true n.natAbs 1
  | float x => x

/-- Whether two numbers are of one kind and equal; what is no number equals itself. -/
def same : Number → Number → Bool
  | natural m, natural n => m == n
  | negative m, negative n => m == n
  | float x, float y => (x.isNaN && y.isNaN) || x == y
  | _, _ => false

/-- A number as a settings file spells it. -/
def text : Number → String
  | natural n => Decimal.natural n
  | negative n => "-" ++ Decimal.natural n.natAbs
  | float x => Decimal.scientific x

end Number

/-- A value of any kind. -/
inductive Value where
  | null
  | bool (b : Bool)
  | number (n : Number)
  | string (s : String)
  | sequence (items : List Value)
  | mapping (entries : List (Value × Value))
  | tagged (tag : String) (value : Value)
deriving Repr

namespace Value

/-! ## Equality -/

/-- A tag as it is compared and shown: without a further exclamation mark. -/
def tagName (tag : String) : String :=
  match tag.toList with
  | '!' :: c :: rest => String.ofList (c :: rest)
  | _ => tag

mutual

/-- Whether two values are equal. -/
def same : Value → Value → Bool
  | null, null => true
  | bool a, bool b => a == b
  | number m, number n => m.same n
  | string s, string t => s == t
  | sequence xs, sequence ys => sameItems xs ys
  | mapping es, mapping fs => es.length == fs.length && sameEntries es fs
  | tagged s v, tagged t w => tagName s == tagName t && same v w
  | _, _ => false

/-- Whether two sequences are equal, item by item. -/
def sameItems : List Value → List Value → Bool
  | [], [] => true
  | x :: xs, y :: ys => same x y && sameItems xs ys
  | _, _ => false

/-- Whether every entry is among others. -/
def sameEntries : List (Value × Value) → List (Value × Value) → Bool
  | [], _ => true
  | (k, v) :: rest, fs => (fs.any fun f => same k f.1 && same v f.2) && sameEntries rest fs

end

/-- Whether no value stands twice. -/
def allDifferent : List Value → Bool
  | [] => true
  | v :: rest => !(rest.any fun w => same v w) && allDifferent rest

/-! ## Scalars -/

/-- The whole number of a text, if it has one; the inner result is missing where it has
more than 64 bits. -/
def whole? (s : String) : Option (Option Number) :=
  match Meaning.natural? s with
  | some n =>
    if n < UInt64.size then some (some (.natural n))
    else if n < Nat.pow 2 128 then some none
    else none
  | none =>
    match Meaning.negative? s with
    | some 0 => some (some (.natural 0))
    | some n =>
      if n ≤ Nat.pow 2 63 then some (some (.negative (-n)))
      else if n ≤ Nat.pow 2 127 then some none
      else none
    | none => none

/-- The value of a plain text, decided by the text alone. -/
def ofPlain? (s : String) : Option Value :=
  if s.isEmpty || Meaning.isNull s then some null
  else match Meaning.bool? s with
    | some b => some (bool b)
    | none =>
      match whole? s with
      | some n => n.map number
      | none =>
        if Meaning.hasLeadingZero s.toList then some (string s)
        else match Meaning.float? s with
          | some x => some (number (.float x))
          | none => some (string s)

/-- The value of a scalar whose own tag, if it has one, is already seen to. -/
def ofText? (style : Style) (text : String) : Option Value :=
  if style = .plain then ofPlain? text else some (string text)

/-- The value of a scalar with a tag that names no type of the document's own.  A tag that
is not text leaves a plain scalar to its text. -/
def ofStandard? (tag : NodeTag) (style : Style) (text : String) : Option Value :=
  if tag = NodeTag.standard "bool" then (Meaning.bool? text).map bool
  else if tag = NodeTag.standard "int" then ((whole? text).bind id).map number
  else if tag = NodeTag.standard "float" then
    (Meaning.float? text).map fun x => number (.float x)
  else if tag = NodeTag.standard "null" then
    if Meaning.isNull text then some null else none
  else if tag.isOwn then ofText? style text
  else some (string text)

/-- The value of a scalar. -/
def ofScalar? (tag : Option NodeTag) (style : Style) (text : String) : Option Value :=
  match tag with
  | none => ofText? style text
  | some t =>
    match t.own? with
    | some name => (ofText? style text).map (tagged name)
    | none => ofStandard? t style text

/-- A collection, behind its own tag if it has one. -/
def withTag (tag : Option NodeTag) (v : Value) : Value :=
  match tag.bind NodeTag.own? with
  | some name => tagged name v
  | none => v

/-! ## Trees -/

mutual

/-- The value of a tree. -/
def ofNode? : Node → Option Value
  | .scalar tag style text => ofScalar? tag style text
  | .sequence tag items => (ofNodes? items).map fun vs => withTag tag (sequence vs)
  | .mapping tag entries =>
    (ofEntries? entries).bind fun es =>
      if allDifferent (es.map Prod.fst) then some (withTag tag (mapping es)) else none

/-- The values of some trees. -/
def ofNodes? : List Node → Option (List Value)
  | [] => some []
  | n :: rest => (ofNode? n).bind fun v => (ofNodes? rest).map fun vs => v :: vs

/-- The values of some keys and what they lead to. -/
def ofEntries? : List (Node × Node) → Option (List (Value × Value))
  | [] => some []
  | (k, n) :: rest =>
    (ofNode? k).bind fun key => (ofNode? n).bind fun v =>
      (ofEntries? rest).map fun es => (key, v) :: es

end

/-- The value without tags in front. -/
def untagged : Value → Value
  | tagged _ v => untagged v
  | v => v

/-- The text of a string. -/
def string? (v : Value) : Option String :=
  match v.untagged with
  | string s => some s
  | _ => none

/-- The number of a number. -/
def float? (v : Value) : Option Float :=
  match v.untagged with
  | number n => some n.toFloat
  | _ => none

/-! ## Words -/

/-- A quoted text. -/
def quoted (s : String) : String := String.ofList (Text.quote s.toList)

/-- A truth value in words. -/
def boolText (b : Bool) : String := if b then "true" else "false"

mutual

/-- A value in words. -/
def describe : Value → String
  | null => "Null"
  | bool b => "Bool(" ++ boolText b ++ ")"
  | number n => "Number(" ++ n.text ++ ")"
  | string s => "String(" ++ quoted s ++ ")"
  | sequence items => "Sequence [" ++ describeItems items ++ "]"
  | mapping entries => "Mapping \x7b" ++ describeEntries entries ++ "\x7d"
  | tagged tag v =>
    "TaggedValue \x7b tag: !" ++ tagName tag ++ ", value: " ++ describe v ++ " \x7d"

/-- Items in words. -/
def describeItems : List Value → String
  | [] => ""
  | [v] => describe v
  | v :: rest => describe v ++ ", " ++ describeItems rest

/-- Entries in words; a simple key is shown by itself. -/
def describeEntries : List (Value × Value) → String
  | [] => ""
  | (k, v) :: rest =>
    let key := match k with
      | bool b => boolText b
      | number n => n.text
      | string s => quoted s
      | _ => describe k
    key ++ ": " ++ describe v ++
      (match rest with
        | [] => ""
        | _ => ", ") ++ describeEntries rest

end

end Value

end Yaml

end BenchCampaign
