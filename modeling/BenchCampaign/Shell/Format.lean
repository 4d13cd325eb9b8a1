import BenchCampaign.Shell.Complaint
import BenchCampaign.Shell.Format.Escape
import BenchCampaign.Shell.Format.Quantity

/-!
# Echoed and formatted text

A format is text with directives, each of which takes an argument.  It is used
again while there are arguments left, and where there are none, nothing or zero
stands in.  An argument that is no number is told, and counts as far as it is one.

* `Format.echo`: the text of arguments, with the meaning of backslashes.
* `Format.print`: a format with arguments put in.
-/

namespace BenchCampaign

namespace Shell

namespace Format

/-! ## Echo -/

/-- The text of arguments, with blanks between them. -/
def joined (arguments : List Octets) : Octets := [' '].intercalate arguments

/-- The echo of arguments. -/
def echo (arguments : List Octets) : Octets :=
  let (arguments, lineEnd) := match arguments with
    | ['-', 'n'] :: rest => (rest, [])
    | rest => (rest, ['\n'])
  let text := joined arguments
  let (text, ends) := Escape.inText Escape.inFormat (text.length + 1) text
  if ends then text else text ++ lineEnd

/-! ## Directives -/

/-- How an argument is put in. -/
structure Directive where
  leftAligned : Bool
  zeroPadded : Bool
  plus : Bool
  /-- Whether a blank stands where a minus sign could. -/
  blank : Bool
  /-- Whether the base of a number is shown, or a point without places. -/
  isAlternate : Bool
  width : Nat
  precision : Option Nat

namespace Directive

/-- A text as wide as a directive asks for; zeros, where they fill it, go behind its `lead`. -/
def fill (d : Directive) (withZeros : Bool) (lead cs : Octets) : Octets :=
  let missing := d.width - (lead.length + cs.length)
  if d.leftAligned then lead ++ cs ++ List.replicate missing ' '
  else if withZeros then lead ++ List.replicate missing '0' ++ cs
  else List.replicate missing ' ' ++ lead ++ cs

/-- A text as a directive puts it in. -/
def text (d : Directive) (cs : Octets) : Octets :=
  d.fill false [] (cs.take (d.precision.getD cs.length))

/-- The sign of a number. -/
def sign (d : Directive) (isNegative : Bool) : Octets :=
  if isNegative then ['-'] else if d.plus then ['+'] else if d.blank then [' '] else []

/-- The digits of a whole number: as many as the precision asks for, or else with zeros as
far as the directive is wide. -/
def integer (d : Directive) (lead digits : Octets) : Octets :=
  let least := d.precision.getD 1
  let digits := if least = 0 && digits = ['0'] then [] else digits
  d.fill (d.zeroPadded && d.precision.isNone) lead
    (List.replicate (least - digits.length) '0' ++ digits)

/-- A whole number that may be negative. -/
def signed (d : Directive) (n : Int) : Octets :=
  d.integer (d.sign (n < 0)) (Octets.ofNat n.natAbs)

/-- A natural number in the base of a conversion. -/
def unsigned (d : Directive) (conversion : Char) (n : Nat) : Octets :=
  let isShown := d.isAlternate && n ≠ 0
  match conversion with
  | 'o' => d.integer [] ((if isShown then ['0'] else []) ++ Nat.toDigits 8 n)
  | 'x' => d.integer (if isShown then ['0', 'x'] else []) (Nat.toDigits 16 n)
  | 'X' => d.integer (if isShown then ['0', 'X'] else []) ((Nat.toDigits 16 n).map Char.toUpper)
  | _ => d.integer [] (Octets.ofNat n)

/-- A number with a fraction. -/
def quantity (d : Directive) (conversion : Char) (q : Quantity) : Octets :=
  let lead := d.sign q.isNegative
  let upper := conversion.isUpper
  let word := fun s : String => if upper then s.toList.map Char.toUpper else s.toList
  match q with
  | .nan _ => d.fill false lead (word "nan")
  | .infinite _ => d.fill false lead (word "inf")
  | .finite _ num den =>
    let places := d.precision.getD 6
    match conversion.toLower with
    | 'f' => d.fill d.zeroPadded lead (Quantity.fixed places d.isAlternate num den)
    | 'e' => d.fill d.zeroPadded lead (Quantity.scientific places d.isAlternate upper num den)
    | 'a' =>
      d.fill d.zeroPadded (lead ++ word "0x")
        ((Quantity.hexadecimal d.precision d.isAlternate num den).map fun c =>
          if upper then c.toUpper else c)
    | _ => d.fill d.zeroPadded lead (Quantity.general places d.isAlternate upper num den)

end Directive

/-! ## Numbers in arguments -/

/-- What is to be told of an argument of which some text is not part of a number. -/
def unconverted (argument rest : Octets) (isInRange : Bool) : List Complaint :=
  if rest.isEmpty then (if isInRange then [] else [.outOfRange argument])
  else if rest.length = argument.length then [.notNumeric argument]
  else [.notConverted argument]

/-- The number of an argument that is a character behind a quotation mark. -/
def quotedCharacter? : Octets → Option Nat
  | '\'' :: rest => some ((rest.head?.map Char.toNat).getD 0)
  | '"' :: rest => some ((rest.head?.map Char.toNat).getD 0)
  | _ => none

/-- The number of an argument, and what is to be told of it. -/
def integerOf (argument : Octets) : Int × List Complaint :=
  match quotedCharacter? argument with
  | some n => (n, [])
  | none =>
    let (n, rest) := Numeral.signed argument
    (Numeral.clamp n, unconverted argument rest (Numeral.clamp n = n))

/-- The natural number of an argument, which a minus sign wraps, and what is to be told of
it. -/
def naturalOf (argument : Octets) : Nat × List Complaint :=
  match quotedCharacter? argument with
  | some n => (n, [])
  | none =>
    let (n, rest) := Numeral.signed argument
    if n.natAbs < UInt64.size then
      ((n.emod UInt64.size).toNat, unconverted argument rest true)
    else (UInt64.size - 1, unconverted argument rest false)

/-- The number with a fraction of an argument, and what is to be told of it. -/
def quantityOf (argument : Octets) : Quantity × List Complaint :=
  match quotedCharacter? argument with
  | some n => (.finite false n 1, [])
  | none =>
    if argument.isEmpty then (.zero, [])
    else match Quantity.leading? argument with
      | some (q, rest) => (q.rounded, unconverted argument rest q.isInRange)
      | none => (.zero, unconverted argument argument true)

/-! ## Formats -/

/-- What came of a format. -/
structure Printed where
  text : Octets
  /-- What is to be told of arguments. -/
  complaints : List Complaint
  /-- Why the format ends before its end. -/
  fault : Option Complaint
  /-- Whether an argument ended all output. -/
  ends : Bool
  /-- The arguments that are left. -/
  arguments : List Octets

namespace Printed

/-- Nothing more. -/
def nothing (arguments : List Octets) : Printed := ⟨[], [], none, false, arguments⟩

/-- Puts text and complaints in front. -/
def after (cs : Octets) (complaints : List Complaint) (p : Printed) : Printed :=
  { p with text := cs ++ p.text, complaints := complaints ++ p.complaints }

/-- Whether all arguments were right. -/
def isRight (p : Printed) : Bool := p.complaints.isEmpty && p.fault.isNone

end Printed

/-- A width or precision, which may be an argument, with what follows and the arguments that
are left. -/
def size (text : Octets) (arguments : List Octets) :
    Option Int × Octets × List Octets × List Complaint :=
  match text with
  | '*' :: rest =>
    let (n, complaints) := integerOf (arguments.head?.getD [])
    (some n, rest, arguments.drop 1, complaints)
  | text =>
    let digits := text.takeWhile fun c => c.isDigit || c = '*'
    let n := (digits.takeWhile Char.isDigit)
    (if n.isEmpty then none else some (Numeral.ofDigits 10 n), text.drop digits.length, arguments, [])

/-- A directive from behind its percent sign: what it takes from the text, the arguments that
are left for it, and what is to be told of them. -/
def directive (text : Octets) (arguments : List Octets) :
    Directive × Octets × List Octets × List Complaint :=
  let isFlag := fun c => c = '-' || c = '0' || c = '+' || c = ' ' || c = '#'
  let flags := text.takeWhile isFlag
  let (width, text, arguments, complaints) := size (text.drop flags.length) arguments
  let (precision, text, arguments, more) := match text with
    | '.' :: rest =>
      let (n, text, arguments, more) := size rest arguments
      (some (n.getD 0), text, arguments, more)
    | text => (none, text, arguments, [])
  let width := width.getD 0
  ({ leftAligned := flags.contains '-' || width < 0
     zeroPadded := flags.contains '0'
     plus := flags.contains '+'
     blank := flags.contains ' '
     isAlternate := flags.contains '#'
     width := width.natAbs
     precision := precision.bind fun n => if n < 0 then none else some n.toNat },
    text, arguments, complaints ++ more)

/-- An argument as a directive puts it in, what is to be told of it, and whether all output
ends there; none if the conversion is unknown. -/
def converted? (d : Directive) (conversion : Char) (argument : Octets) :
    Option (Octets × List Complaint × Bool) :=
  if conversion = 's' then some (d.text argument, [], false)
  else if conversion = 'b' then
    let (cs, ends) := Escape.inText Escape.inFormat (argument.length + 1) argument
    some (d.text cs, [], ends)
  else if conversion = 'c' then
    some (d.fill false [] (if argument.isEmpty then ['\x00'] else argument.take 1), [], false)
  else if "di".toList.contains conversion then
    let (n, complaints) := integerOf argument
    some (d.signed n, complaints, false)
  else if "ouxX".toList.contains conversion then
    let (n, complaints) := naturalOf argument
    some (d.unsigned conversion n, complaints, false)
  else if "aAeEfFgG".toList.contains conversion then
    let (q, complaints) := quantityOf argument
    some (d.quantity conversion q, complaints, false)
  else none

/-- One pass over a format. -/
def pass : (fuel : Nat) → Octets → List Octets → Printed
  | 0, _, arguments => .nothing arguments
  | _, [], arguments => .nothing arguments
  | fuel + 1, '\\' :: rest, arguments =>
    let (c, rest) := Escape.inFormat rest
    (pass fuel rest arguments).after [c] []
  | fuel + 1, '%' :: '%' :: rest, arguments => (pass fuel rest arguments).after ['%'] []
  | fuel + 1, '%' :: text, arguments =>
    let (d, rest, arguments, complaints) := directive text arguments
    match rest with
    | [] => { Printed.nothing [] with complaints := complaints, fault := some .noDirective }
    | conversion :: rest =>
      match converted? d conversion (arguments.head?.getD []) with
      | none =>
        let shown := '%' :: text.take (text.length - rest.length)
        { Printed.nothing [] with complaints := complaints, fault := some (.badDirective shown) }
      | some (cs, more, ends) =>
        if ends then { Printed.nothing [] with text := cs, complaints := complaints, ends := true }
        else (pass fuel rest (arguments.drop 1)).after cs (complaints ++ more)
  | fuel + 1, c :: rest, arguments => (pass fuel rest arguments).after [c] []

/-- A format with arguments put in, again while a pass takes some. -/
def print : (passes : Nat) → Octets → List Octets → Printed
  | 0, _, arguments => .nothing arguments
  | passes + 1, format, arguments =>
    let p := pass (format.length + 1) format arguments
    if p.ends || p.fault.isSome || p.arguments.isEmpty ||
        p.arguments.length = arguments.length then p
    else (print passes format p.arguments).after p.text p.complaints

end Format

end Shell

end BenchCampaign
