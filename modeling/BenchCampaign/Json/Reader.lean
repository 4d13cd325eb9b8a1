import BenchCampaign.Decimal.Reading
import BenchCampaign.Json.Value
import BenchCampaign.Text.Search

/-!
# Reading JSON

The text of a whole document is read into a value.  Arrays and objects nest to
a fixed depth; a string may not hold a bare control character or half of a
surrogate pair; a number may not exceed the range of doubles.

A number is added up in 64 bits.  Digits before the point that do not fit any more
only raise the power of ten, and digits after it are left out; the double is the
product of the double of the digits and the double of the power.

* `Json.read?`: the value of a document.
-/

namespace BenchCampaign

namespace Json

/-! ## Strings -/

/-- How far a string has been read. -/
inductive StringState where
  /-- Between characters. -/
  | plain
  /-- After a backslash. -/
  | escape
  /-- After `digits` of the four digits of a code unit; a high surrogate may wait for it. -/
  | unit (high : Option Nat) (digits value : Nat)
  /-- After a high surrogate, before the backslash of the low one. -/
  | half (high : Nat)
  /-- After that backslash. -/
  | halfEscape (high : Nat)

/-- The character that a one-letter escape stands for. -/
def unescape? (c : Char) : Option Char :=
  if c = '"' then some '"'
  else if c = '\\' then some '\\'
  else if c = '/' then some '/'
  else if c = 'b' then some '\x08'
  else if c = 'f' then some '\x0c'
  else if c = 'n' then some '\n'
  else if c = 'r' then some '\r'
  else if c = 't' then some '\t'
  else none

/-- The value of a hexadecimal digit. -/
def hexDigit? (c : Char) : Option Nat :=
  if c.isDigit then some (c.toNat - '0'.toNat)
  else if 'a' ≤ c && c ≤ 'f' then some (c.toNat - 'a'.toNat + 10)
  else if 'A' ≤ c && c ≤ 'F' then some (c.toNat - 'A'.toNat + 10)
  else none

/-- What a finished code unit amounts to. -/
inductive UnitMeaning where
  | char (c : Char)
  | highSurrogate
  | invalid

/-- The meaning of a code unit, with the high surrogate before it. -/
def unitMeaning (high : Option Nat) (value : Nat) : UnitMeaning :=
  let isHigh := 0xD800 ≤ value && value ≤ 0xDBFF
  let isLow := 0xDC00 ≤ value && value ≤ 0xDFFF
  match high with
  | none =>
    if isHigh then .highSurrogate
    else if isLow then .invalid
    else .char (Char.ofNat value)
  | some h =>
    if isLow then .char (Char.ofNat (0x10000 + (h - 0xD800) * 0x400 + (value - 0xDC00)))
    else .invalid

/-- Puts a character in front of what is read after it. -/
def consRead (c : Char) (r : Option (List Char × List Char)) : Option (List Char × List Char) :=
  r.map fun p => (c :: p.1, p.2)

/-- Reads the rest of a string; what follows the closing quotation mark is left over. -/
def readString : StringState → List Char → Option (List Char × List Char)
  | _, [] => none
  | .plain, c :: rest =>
    if c = '"' then some ([], rest)
    else if c = '\\' then readString .escape rest
    else if c.toNat < 0x20 then none
    else consRead c (readString .plain rest)
  | .escape, c :: rest =>
    if c = 'u' then readString (.unit none 0 0) rest
    else match unescape? c with
      | some d => consRead d (readString .plain rest)
      | none => none
  | .unit high digits value, c :: rest =>
    match hexDigit? c with
    | none => none
    | some d =>
      if digits < 3 then readString (.unit high (digits + 1) (value * 16 + d)) rest
      else match unitMeaning high (value * 16 + d) with
        | .char u => consRead u (readString .plain rest)
        | .highSurrogate => readString (.half (value * 16 + d)) rest
        | .invalid => none
  | .half high, c :: rest =>
    if c = '\\' then readString (.halfEscape high) rest else none
  | .halfEscape high, c :: rest =>
    if c = 'u' then readString (.unit (some high) 0 0) rest else none

/-! ## Numbers -/

/-- The digits before the point: a zero stands alone. -/
def wholeDigits? (cs : List Char) : Option (List Char × List Char) :=
  match cs.takeWhile Char.isDigit with
  | [] => none
  | '0' :: _ :: _ => none
  | ds => some (ds, cs.dropWhile Char.isDigit)

/-- The digits after a point, which has at least one behind it. -/
def fraction? (cs : List Char) : Option (List Char × List Char) :=
  match cs with
  | '.' :: rest =>
    if (rest.takeWhile Char.isDigit).isEmpty then none
    else some (rest.takeWhile Char.isDigit, rest.dropWhile Char.isDigit)
  | _ => some ([], cs)

/-- The power of ten after its letter, if there is one. -/
def power? (cs : List Char) : Option (Option Int × List Char) :=
  match cs with
  | c :: rest =>
    if c = 'e' || c = 'E' then
      let (negative, tail) := Decimal.splitSign rest
      let n := Decimal.ofDigits (tail.takeWhile Char.isDigit)
      if (tail.takeWhile Char.isDigit).isEmpty then none
      else some (some (if negative then -(n : Int) else n), tail.dropWhile Char.isDigit)
    else some (none, cs)
  | [] => some (none, cs)

/-- Adds digits up as long as the number has no more than 64 bits: the number, and how many
digits it took. -/
def addUp : Nat → List Char → Nat × Nat
  | n, [] => (n, 0)
  | n, c :: rest =>
    let m := n * 10 + Decimal.digitValue c
    if m < UInt64.size then
      let r := addUp m rest
      (r.1, r.2 + 1)
    else (n, 0)

/-- A number as it is added up: what its digits came to, and the power of ten without the
one that is written. -/
def digits (whole fraction : List Char) : Nat × Int :=
  let (n, taken) := addUp 0 whole
  let (m, places) := addUp n fraction
  (m, (whole.length - taken : Nat) - (places : Int))

/-- A number without point and power. -/
def wholeNumber (negative : Bool) (n : Nat) : Number :=
  if negative then
    if n = 0 || Nat.pow 2 63 < n then .other else .negative (-(n : Int))
  else if n < UInt64.size then .natural n
  else .other

/-- Whether the double of `significand · 10 ^ power` is infinite: the doubles of both factors
are multiplied, and there is none for a power above 308.  Only a positive power can bring that
about, as a significand has 64 bits. -/
def isInfinite (significand : Nat) (power : Int) : Bool :=
  significand != 0 && decide (0 < power) &&
    (decide (308 < power) ||
      (Binary64.nearest false significand 1 *
        Binary64.nearest false (Nat.pow 10 power.toNat) 1).isInf)

/-- Whether a number has no finite double.  A written power above 31 bits is too large by
itself. -/
def isTooLarge (whole fraction : List Char) (power : Int) : Bool :=
  let (significand, shift) := digits whole fraction
  if decide ((Nat.pow 2 31 : Int) ≤ power) then significand != 0
  else if decide (power ≤ -(Nat.pow 2 31 : Int)) then false
  else isInfinite significand (shift + power)

/-- Reads a number. -/
def readNumber (negative : Bool) (cs : List Char) : Option (Number × List Char) :=
  match wholeDigits? cs with
  | none => none
  | some (whole, rest) =>
    match fraction? rest with
    | none => none
    | some (fraction, rest) =>
      match power? rest with
      | none => none
      | some (power, rest) =>
        if isTooLarge whole fraction (power.getD 0) then none
        else if fraction.isEmpty && power.isNone then
          some (wholeNumber negative (Decimal.ofDigits whole), rest)
        else some (.other, rest)

/-! ## Documents -/

/-- Whether a character may stand between the parts of a document. -/
def isSpace (c : Char) : Bool :=
  c == ' ' || c == '\n' || c == '\t' || c == '\r'

/-- Drops white space. -/
def skip (cs : List Char) : List Char := cs.dropWhile isSpace

/-- A value without parts. -/
def readScalar (cs : List Char) : Option (Json × List Char) :=
  match cs with
  | '"' :: rest => (readString .plain rest).map fun p => (.string (String.ofList p.1), p.2)
  | '-' :: rest => (readNumber true rest).map fun p => (.number p.1, p.2)
  | 't' :: rest => (Text.dropPrefix? ['r', 'u', 'e'] rest).map fun r => (.bool true, r)
  | 'f' :: rest => (Text.dropPrefix? ['a', 'l', 's', 'e'] rest).map fun r => (.bool false, r)
  | 'n' :: rest => (Text.dropPrefix? ['u', 'l', 'l'] rest).map fun r => (.null, r)
  | _ => (readNumber false cs).map fun p => (.number p.1, p.2)

mutual

/-- Reads a value; `depth` arrays and objects may still be opened. -/
def readValue : Nat → Nat → List Char → Option (Json × List Char)
  | 0, _, _ => none
  | fuel + 1, depth, cs =>
    match skip cs with
    | '[' :: rest =>
      if depth = 0 then none
      else match skip rest with
        | ']' :: rest => some (.array [], rest)
        | rest => (readItems fuel (depth - 1) rest).map fun p => (.array p.1, p.2)
    | '\x7b' :: rest =>
      if depth = 0 then none
      else match skip rest with
        | '\x7d' :: rest => some (.object [], rest)
        | rest => (readMembers fuel (depth - 1) rest).map fun p => (.object p.1, p.2)
    | rest => readScalar rest

/-- Reads the items of an array, of which there is at least one left. -/
def readItems : Nat → Nat → List Char → Option (List Json × List Char)
  | 0, _, _ => none
  | fuel + 1, depth, cs =>
    match readValue fuel depth cs with
    | none => none
    | some (item, rest) =>
      match skip rest with
      | ']' :: rest => some ([item], rest)
      | ',' :: rest => (readItems fuel depth rest).map fun p => (item :: p.1, p.2)
      | _ => none

/-- Reads the members of an object, of which there is at least one left. -/
def readMembers : Nat → Nat → List Char → Option (List (String × Json) × List Char)
  | 0, _, _ => none
  | fuel + 1, depth, cs =>
    match skip cs with
    | '"' :: rest =>
      match readString .plain rest with
      | none => none
      | some (key, rest) =>
        match skip rest with
        | ':' :: rest =>
          match readValue fuel depth rest with
          | none => none
          | some (value, rest) =>
            let item := (String.ofList key, value)
            match skip rest with
            | '\x7d' :: rest => some ([item], rest)
            | ',' :: rest => (readMembers fuel depth rest).map fun p => (item :: p.1, p.2)
            | _ => none
        | _ => none
    | _ => none

end

/-- The number of arrays and objects that may be open at a time. -/
def maxDepth : Nat := 127

/-- The value of a whole document. -/
def read? (cs : List Char) : Option Json :=
  match readValue (2 * cs.length + 2) maxDepth cs with
  | some (value, rest) => if (skip rest).isEmpty then some value else none
  | none => none

end Json

end BenchCampaign
