import BenchCampaign.Shell.Format
import BenchCampaign.Shell.Utility.Options

/-!
# Sequences and times

Programs that take numbers with a fraction: one writes numbers in a row, and one
waits for a time.

* `Utility.seq`, `Utility.sleep`.
-/

namespace BenchCampaign

namespace Shell

namespace Utility

/-! ## Numbers in a row -/

/-- A number as it was written. -/
structure Bound where
  isNegative : Bool
  num : Nat
  den : Nat
  isInfinite : Bool
  /-- How long the number is without an exponent. -/
  width : Nat
  /-- How many digits stand behind the point, if that is known. -/
  places : Option Nat
deriving Repr

namespace Bound

/-- The number above the fraction bar. -/
def signed (b : Bound) : Int := if b.isNegative then -(b.num : Int) else b.num

/-- How long a text is without an exponent, and how many digits stand behind its point. -/
def layout (text : Octets) : Nat × Nat :=
  let mantissa := text.takeWhile fun c => c ≠ 'e' && c ≠ 'E'
  let point := mantissa.takeWhile (· ≠ '.')
  let fraction := mantissa.length - (point.length + 1)
  let hasPoint := point.length < mantissa.length
  let isBare := !(point.getLast?.any Char.isDigit)
  let width := mantissa.length + (if hasPoint && fraction ≠ 0 && isBare then 1 else 0) -
    (if hasPoint && fraction = 0 then 1 else 0)
  match Octets.int? (text.drop (mantissa.length + 1)) with
  | none => (width, fraction)
  | some e =>
    let n := e.natAbs
    if e < 0 then
      (width + (if !hasPoint || fraction = 0 then 1 else 0) + n, fraction + n)
    else
      let places := fraction - n
      (width - (if hasPoint && places = 0 && fraction ≠ 0 then 1 else 0) + (n - fraction), places)

/-- The number of a text. -/
def read (text : Octets) : Except Octets Bound :=
  let invalid := .error ("invalid floating point argument: ".toList ++ Work.quote text)
  match Quantity.leading? text with
  | some (.finite isNegative num den, []) =>
    let shown := text.dropWhile fun c => Numeral.isSpace c || c = '+'
    if shown.any fun c => c = 'x' || c = 'X' then
      .ok ⟨isNegative, num, den, false, 0, if shown.contains '.' || shown.contains 'p' then none
        else some 0⟩
    else
      let (width, places) := layout shown
      .ok ⟨isNegative, num, den, false, width, some places⟩
  | some (.infinite isNegative, []) => .ok ⟨isNegative, 0, 1, true, 0, some 0⟩
  | some (.nan _, []) =>
    .error ("invalid 'not-a-number' argument: ".toList ++ Work.quote text)
  | _ => invalid

end Bound

/-- A directive for numbers, with what stands around it. -/
structure NumberFormat where
  lead : Octets
  directive : Format.Directive
  conversion : Char
  trail : Octets

/-- The text in front of the first directive of a format, and what stands behind the percent
sign of it; two percent signs are none. -/
def beforeDirective : Octets → Octets × Option Octets
  | [] => ([], none)
  | '%' :: '%' :: rest =>
    let (lead, text) := beforeDirective rest
    ('%' :: lead, text)
  | '%' :: rest => ([], some rest)
  | c :: rest =>
    let (lead, text) := beforeDirective rest
    (c :: lead, text)

/-- Reads a format, which must have one directive. -/
def numberFormat (text : Octets) : Except Octets NumberFormat :=
  let fault := fun (t : String) => .error ("format ".toList ++ Work.quote text ++ t.toList)
  match beforeDirective text with
  | (_, none) => fault " has no % directive"
  | (lead, some rest) =>
    let (d, rest, _, _) := Format.directive rest []
    match if rest.head? = some 'L' then rest.drop 1 else rest with
    | [] => fault " ends in %"
    | c :: rest =>
      if !"aAeEfFgG".toList.contains c then
        .error ("format ".toList ++ Work.quote text ++ " has unknown %".toList ++ c ::
          " directive".toList)
      else match beforeDirective rest with
        | (_, some _) => fault " has too many % directives"
        | (trail, none) => .ok ⟨lead, d, c, trail⟩

/-- The format of numbers for which none is asked. -/
def defaultFormat (isWide : Bool) (first step last : Bound) : NumberFormat :=
  let plain : Format.Directive :=
    { leftAligned := false
      zeroPadded := false
      plus := false
      blank := false
      isAlternate := false
      width := 0
      precision := none }
  match first.places, step.places, last.places with
  | some p, some q, some r =>
    let places := max p q
    let firstWidth := first.width + (places - p) + (if p = 0 && places ≠ 0 then 1 else 0)
    let lastWidth := last.width + places - r - (if r ≠ 0 && places = 0 then 1 else 0) +
      (if r = 0 && places ≠ 0 then 1 else 0)
    let width := if isWide then max firstWidth lastWidth else 0
    ⟨[], { plain with zeroPadded := isWide, width := width, precision := some places }, 'f', []⟩
  | _, _, _ => ⟨[], plain, 'g', []⟩

/-- A number in a format; a negative zero keeps its sign. -/
def NumberFormat.text (f : NumberFormat) (isNegative : Bool) (num den : Nat) : Octets :=
  f.lead ++ f.directive.quantity f.conversion (.finite isNegative num den) ++ f.trail

/-- How many numbers are written of a row without end. -/
def endlessNumbers : Nat := 65536

/-- The numbers of a row. -/
def row (f : NumberFormat) (first step last : Bound) : List Octets :=
  let den : Nat := first.den * step.den * last.den
  let a : Int := first.signed * (step.den * last.den : Nat)
  let d : Int := step.signed * (first.den * last.den : Nat)
  let z : Int := last.signed * (first.den * step.den : Nat)
  let count : Nat :=
    if last.isInfinite then
      (if last.isNegative == (d < 0 : Bool) then endlessNumbers else 0)
    else if d = 0 then 0
    else ((z - a).fdiv d + 1).toNat
  (List.range count).map fun (k : Nat) =>
    let x : Int := a + d * (k : Int)
    f.text (x < 0 || x = 0 && k = 0 && first.isNegative) x.natAbs den

/-- The arguments of which numbers stand behind the options. -/
def seqArguments : List Octets → List Octets
  | [] => []
  | a :: rest =>
    match a with
    | '-' :: c :: _ => if c.isDigit || c = '.' then ['-', '-'] :: a :: rest else a :: afterOption a rest
    | _ => a :: rest
where
  /-- What stands behind an option, maybe behind its value. -/
  afterOption (option : Octets) : List Octets → List Octets
    | [] => []
    | value :: rest =>
      if option = ['-', 's'] || option = ['-', 'f'] || option = "--separator".toList ||
          option = "--format".toList then value :: seqArguments rest
      else seqArguments (value :: rest)

/-- Writes numbers in a row. -/
def seq : Utility := fun arguments =>
  let known := (OptionSet.of "f:s:w" [("format", 'f'), ("separator", 's'), ("equal-width", 'w')]).ordered
  Work.withOptions 1 known (seqArguments arguments) fun o => do
    let one : Bound := ⟨false, 1, 1, false, 1, some 0⟩
    match o.operands with
    | [] => Work.usage 1 Work.missingOperand
    | _ :: _ :: _ :: extra :: _ => Work.usage 1 (Work.extraOperand extra)
    | operands =>
      match (o.value? 'f').map numberFormat with
      | some (.error fault) => Work.complain 1 fault
      | asked =>
        if (o.value? 'f').isSome && o.has 'w' then
          Work.usage 1 "format string may not be specified when printing equal width strings".toList
        else match operands.mapM Bound.read with
          | .error fault => Work.usage 1 fault
          | .ok bounds =>
            let (first, step, last) := match bounds with
              | [last] => (one, one, last)
              | [first, last] => (first, one, last)
              | [first, step, last] => (first, step, last)
              | _ => (one, one, one)
            if step.num = 0 && !step.isInfinite then
              Work.usage 1 ("invalid Zero increment value: ".toList ++
                Work.quote ((operands[1]?).getD []))
            else
              let f := match asked with
                | some (.ok f) => f
                | _ => defaultFormat (o.has 'w') first step last
              let numbers := row f first step last
              let separator := (o.value? 's').getD ['\n']
              if !numbers.isEmpty then Work.printLine (separator.intercalate numbers)

/-! ## Waiting -/

/-- A time in millionths of a second. -/
def duration? (text : Octets) : Option Nat :=
  match Quantity.leading? text with
  | some (.finite isNegative num den, rest) =>
    let factor := match rest with
      | [] => some 1
      | ['s'] => some 1
      | ['m'] => some 60
      | ['h'] => some 3600
      | ['d'] => some 86400
      | _ => none
    if isNegative && num ≠ 0 then none else factor.map fun f => num * f * 1000000 / den
  | some (.infinite false, []) => some 1000000000000
  | _ => none

/-- Waits for the sum of some times. -/
def sleep : Utility := fun arguments =>
  Work.withOptions 1 (OptionSet.of "" []).ordered arguments fun o => do
    if o.operands.isEmpty then Work.usage 1 Work.missingOperand
    else
      let wrong := o.operands.filter fun a => (duration? a).isNone
      for a in wrong do
        Work.warn ("invalid time interval ".toList ++ Work.quote a)
      if wrong.isEmpty then
        let total := (o.operands.filterMap duration?).foldl (· + ·) 0
        modify fun w => { w with clock := w.clock + total }
      else
        Work.setStatus 1
        Work.suggestHelp

end Utility

end Shell

end BenchCampaign
