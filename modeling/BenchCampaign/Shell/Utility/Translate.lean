import BenchCampaign.Shell.CharacterClass
import BenchCampaign.Shell.Numeral
import BenchCampaign.Shell.Utility.Options

/-!
# Translating characters

One character in place of another, or none, or one in place of many.

* `CharacterSet.read`: the characters that a text names.
* `Utility.tr`: replaces, deletes or squeezes characters.
-/

namespace BenchCampaign

namespace Shell

/-- A part of what names characters. -/
inductive CharacterSet where
  | char (c : Char)
  | range (first last : Char)
  | cls (k : CharacterClass)
  /-- A character so often, or as often as is needed. -/
  | repeated (c : Char) (count : Option Nat)
deriving DecidableEq, Repr

namespace CharacterSet

/-- The characters of a text of which backslashes hide some, and whether they are hidden. -/
def unescape : (fuel : Nat) → Octets → List (Char × Bool)
  | 0, _ => []
  | _, [] => []
  | _, ['\\'] => [('\\', false)]
  | fuel + 1, '\\' :: c :: rest =>
    let control : Option Char := match c with
      | 'a' => some '\x07'
      | 'b' => some '\x08'
      | 'f' => some '\x0c'
      | 'n' => some '\n'
      | 'r' => some '\r'
      | 't' => some '\t'
      | 'v' => some '\x0b'
      | _ => none
    match control with
    | some k => (k, true) :: unescape fuel rest
    | none =>
      if Numeral.isOctal c then
        let three := ((c :: rest).take 3).takeWhile Numeral.isOctal
        let digits := if 255 < Numeral.ofDigits 8 three then three.take 2 else three
        (Char.ofNat (Numeral.ofDigits 8 digits), true) ::
          unescape fuel ((c :: rest).drop digits.length)
      else (c, true) :: unescape fuel rest
  | fuel + 1, c :: rest => (c, false) :: unescape fuel rest

/-- A repetition behind an opening bracket, and what follows. -/
def repetition? (text : List (Char × Bool)) : Option (CharacterSet × List (Char × Bool)) :=
  match text with
  | (c, _) :: ('*', false) :: rest =>
    let digits := (rest.map Prod.fst).takeWhile Char.isDigit
    match rest.drop digits.length with
    | (']', false) :: rest =>
      let base := if digits.head? = some '0' then 8 else 10
      let n := Numeral.ofDigits base digits
      some (repeated c (if n = 0 then none else some n), rest)
    | _ => none
  | _ => none

/-- The named class behind an opening bracket and a colon: its name, and what follows. -/
def className? (text : List (Char × Bool)) : Option (Octets × List (Char × Bool)) :=
  let name := (text.takeWhile fun c => c.1 ≠ ':').map Prod.fst
  match text.drop name.length with
  | (':', false) :: (']', false) :: rest => some (name, rest)
  | _ => none

/-- A character in words. -/
def shown (c : Char) : Octets :=
  if ' ' ≤ c && c ≤ '~' then [c]
  else
    let ds := Nat.toDigits 8 c.toNat
    '\\' :: List.replicate (3 - ds.length) '0' ++ ds

/-- The parts of a text that names characters, or what is wrong with it. -/
def parts : (fuel : Nat) → List (Char × Bool) → Except Octets (List CharacterSet)
  | 0, _ => .ok []
  | _, [] => .ok []
  | fuel + 1, (c, hidden) :: rest =>
    let plain : Unit → Except Octets (List CharacterSet) := fun _ =>
      match rest with
      | ('-', false) :: (d, _) :: rest =>
        if d < c then
          .error ("range-endpoints of '".toList ++ shown c ++ '-' :: shown d ++
            "' are in reverse collating sequence order".toList)
        else (parts fuel rest).map (range c d :: ·)
      | rest => (parts fuel rest).map (char c :: ·)
    if c = '[' && !hidden then
      match rest with
      | (':', false) :: text =>
        match className? text with
        | none => plain ()
        | some (name, rest) =>
          match CharacterClass.ofName? (String.ofList name) with
          | some k => (parts fuel rest).map (cls k :: ·)
          | none =>
            if name.isEmpty then .error "missing character class name '[::]'".toList
            else .error ("invalid character class ".toList ++ Work.quote name)
      | ('=', false) :: (e, _) :: ('=', false) :: (']', false) :: rest =>
        (parts fuel rest).map (char e :: ·)
      | rest =>
        match repetition? rest with
        | some (part, rest) => (parts fuel rest).map (part :: ·)
        | none => plain ()
    else plain ()

/-- The parts of a text that names characters, or what is wrong with it. -/
def read (text : Octets) : Except Octets (List CharacterSet) :=
  let cs := unescape (text.length + 1) text
  parts (cs.length + 1) cs

/-- All characters. -/
def everything : Octets := (List.range 256).map Char.ofNat

/-- The characters of one part; `fill` is how often a character is repeated as is needed. -/
def members (fill : Nat) : CharacterSet → Octets
  | char c => [c]
  | range first last =>
    (List.range (last.toNat + 1 - first.toNat)).map fun k => Char.ofNat (first.toNat + k)
  | cls k => everything.filter k.holds
  | repeated c count => List.replicate (count.getD fill) c

/-- The characters of all parts, as many as `size` if a repetition can fill them up. -/
def expand (size : Nat) (ps : List CharacterSet) : Octets :=
  let fixed := (ps.flatMap (members 0)).length
  ps.flatMap (members (size - fixed))

end CharacterSet

namespace Utility

open Work

/-- Without repetitions of members of a set that follow each other. -/
def squeeze (isMember : Char → Bool) : Octets → Octets
  | a :: b :: rest =>
    if a = b && isMember a then squeeze isMember (b :: rest)
    else a :: squeeze isMember (b :: rest)
  | cs => cs

/-- What replaces the characters of a set, the last one of two that replace the same one. -/
def replacements (firsts seconds : Octets) : List (Char × Char) := (firsts.zip seconds).reverse

/-- The characters that replace those of a set, the last one again where there are no more. -/
def lengthened (size : Nat) (seconds : Octets) : Octets :=
  seconds ++ List.replicate (size - seconds.length) (seconds.getLast?.getD '\x00')

/-- Tells what is wrong with operands, in two lines. -/
def wrongOperands (fault : Octets) (reason : String) : StateM Work Unit := do
  complain 1 fault
  write 2 (reason.toList ++ ['\n'])
  suggestHelp

/-- Replaces, deletes or squeezes characters. -/
def tr : Utility := fun arguments =>
  let known := (OptionSet.of "cCdst" [("complement", 'c'), ("delete", 'd'),
    ("squeeze-repeats", 's'), ("truncate-set1", 't')]).ordered
  withOptions 1 known arguments fun o => do
    let deletes := o.has 'd'
    let squeezes := o.has 's'
    let isComplement := o.has 'c' || o.has 'C'
    match o.operands with
    | [] => usage 1 missingOperand
    | [one] =>
      let reason := if deletes
        then "Two strings must be given when both deleting and squeezing repeats."
        else "Two strings must be given when translating."
      if deletes != squeezes then run deletes squeezes isComplement (o.has 't') one none
      else wrongOperands (missingOperandAfter one) reason
    | [one, two] =>
      if deletes && !squeezes then
        wrongOperands (extraOperand two)
          "Only one string may be given when deleting without squeezing repeats."
      else run deletes squeezes isComplement (o.has 't') one (some two)
    | _ :: _ :: three :: _ => usage 1 (extraOperand three)
where
  /-- Goes through all that is read. -/
  run (deletes squeezes isComplement truncates : Bool) (one : Octets) (two : Option Octets) :
      StateM Work Unit := do
    match CharacterSet.read one, (two.map CharacterSet.read).getD (.ok []) with
    | .error fault, _ => complain 1 fault
    | _, .error fault => complain 1 fault
    | .ok first, .ok second =>
      let named := CharacterSet.expand 0 first
      let firsts := if isComplement then
          CharacterSet.everything.filter fun c => !named.contains c
        else named
      let seconds := CharacterSet.expand firsts.length second
      let isFirst := fun c => named.contains c != isComplement
      if two.isSome && !deletes && seconds.isEmpty && !truncates then
        complain 1 "when not truncating set1, string2 must be non-empty".toList
      else
        let text := (← takeInput).text
        let changed :=
          if deletes then text.filter fun c => !isFirst c
          else if two.isNone then text
          else
            let table := replacements firsts
              (if truncates then seconds else lengthened firsts.length seconds)
            text.map fun c => ((table.find? fun r => r.1 = c).map Prod.snd).getD c
        let isSqueezed := if two.isNone then isFirst else fun c => seconds.contains c
        print (if squeezes then squeeze isSqueezed changed else changed)

end Utility

end Shell

end BenchCampaign
