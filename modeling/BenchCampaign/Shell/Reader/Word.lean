import BenchCampaign.Shell.Reader.Fault
import BenchCampaign.Shell.Script

/-!
# Reading words

A word ends at a blank or at an operator.  Quotation marks and backslashes take
their meaning from characters; a dollar sign, also between double quotation
marks, stands in front of a parameter, a command or an expression.

* `Reader.word`: a word.
* `Reader.pieces`: pieces up to where they end, in words and in documents.
-/

namespace BenchCampaign

namespace Shell

namespace Reader

open Reading

/-! ## Characters -/

/-- Whether a character ends a word. -/
def isMeta (c : Char) : Bool := " \t\n;&|<>()".toList.contains c

/-! ## Words -/

/-- Puts text in front of pieces; it joins text of the same kind. -/
def consText (quoted : Bool) (cs : Octets) : Word → Word
  | .text q more :: rest =>
    if q = quoted then .text q (cs ++ more) :: rest else .text quoted cs :: .text q more :: rest
  | rest => .text quoted cs :: rest

/-- The text of a word of which nothing is quoted and nothing is put in. -/
def literal? : Word → Option Octets
  | [.text false cs] => some cs
  | _ => none

/-- The name that a word assigns to, and the value. -/
def assignment? : Word → Option (String × Word)
  | .text false cs :: rest =>
    match name? cs with
    | some (name, '=' :: []) => some (name, rest)
    | some (name, '=' :: value) => some (name, .text false value :: rest)
    | _ => none
  | _ => none

/-- What pieces are part of. -/
inductive Context where
  | script
  /-- A text of their own. -/
  | text
  /-- A document up to a line, in front of which tabs may not count. -/
  | document (stop : Octets) (stripTabs : Bool)
deriving DecidableEq, Repr

/-- Begins a line: whether it is the one that ends a document, which is taken then. -/
def Context.beginLine : Context → Reading Bool
  | document stop stripTabs => fun s =>
    let s := if stripTabs then s.dropWhile (· = '\t') else s
    if s.rest.takeWhile (· ≠ '\n') = stop then .ok (true, s.drop (stop.length + 1))
    else .ok (false, s)
  | _ => pure false

/-- Where pieces are read, which decides where they end and what is special. -/
inductive Mode where
  | word
  /-- Between single quotation marks, where nothing is special. -/
  | literal
  | quoted
  | braced (quoted : Bool)
  /-- Up to the end of a text. -/
  | whole (isLiteral : Bool)
  /-- Between double parentheses, within some more. -/
  | arithmetic (depth : Nat)
deriving DecidableEq, Repr

namespace Mode

/-- Whether text has no special meaning beyond the dollar sign and its like. -/
def isQuoted : Mode → Bool
  | word => false
  | braced q => q
  | _ => true

/-- Whether nothing is special but the end. -/
def isLiteral : Mode → Bool
  | literal => true
  | whole l => l
  | _ => false

/-- Whether a character has no meaning anywhere but itself. -/
def isOrdinary (mode : Mode) (c : Char) : Bool :=
  if mode.isLiteral then c ≠ '\n' && c ≠ '\''
  else !isMeta c && !"$\x60\\'\"\x7d".toList.contains c

/-- Why a text cannot end in the middle of pieces.  Only braces are missed outside scripts,
where quotation marks need not be closed. -/
def openCause? (context : Context) : Mode → Option SyntaxCause
  | word => none
  | literal => some (if context = .script then .openQuote else .openBrace)
  | quoted => some (if context = .script then .openQuote else .openBrace)
  | braced q => some (if q && context = .script then .openQuote else .openBrace)
  | whole _ => none
  | arithmetic _ => some .openArithmetic

/-- How many characters end the pieces, if they end in front of a text. -/
def end? (mode : Mode) (text : Octets) : Option Nat :=
  match mode, text with
  | word, c :: _ => if isMeta c then some 0 else none
  | literal, '\'' :: _ => some 1
  | quoted, '"' :: _ => some 1
  | braced _, '\x7d' :: _ => some 1
  | arithmetic 0, ')' :: ')' :: _ => some 2
  | _, _ => none

/-- Where pieces are read behind a character. -/
def behind (mode : Mode) (c : Char) : Mode :=
  match mode with
  | arithmetic depth =>
    arithmetic (if c = '(' then depth + 1 else if c = ')' then depth - 1 else depth)
  | mode => mode

/-- Whether a double quotation mark is special. -/
def takesQuotes : Mode → Bool
  | whole _ => false
  | arithmetic _ => false
  | _ => true

/-- Whether a backslash takes the special meaning of a character. -/
def hides (mode : Mode) (c : Char) : Bool :=
  !mode.isQuoted || c = '$' || c = '\x60' || c = '\\' || (c = '"' && mode ≠ whole false) ||
    (c = '\x7d' && mode = braced true)

end Mode

/-! ## Parameters -/

/-- The parameter that a sign stands for. -/
def special? (c : Char) : Option Parameter :=
  match c with
  | '*' => some .joined
  | '@' => some .each
  | '#' => some .count
  | '?' => some .status
  | '$' => some .process
  | '!' => some .background
  | '-' => some .options
  | _ => none

/-- The parameter that a text begins with, outside braces, and its length. -/
def parameter? : Octets → Option (Parameter × Nat)
  | [] => none
  | c :: rest =>
    if c.isDigit then some (.argument (c.toNat - '0'.toNat), 1)
    else match special? c with
      | some p => some (p, 1)
      | none => (name? (c :: rest)).map fun r => (.named r.1, r.1.length)

/-- The parameter with a name, or an argument, that a text in braces begins with. -/
def wordParameter? (text : Octets) : Option (Parameter × Nat) :=
  let digits := text.takeWhile Char.isDigit
  match Octets.natural? digits with
  | some n => some (.argument n, digits.length)
  | none => (name? text).map fun r => (.named r.1, r.1.length)

/-- What can be asked of a parameter in braces. -/
inductive Question where
  | value
  | length
  | guard (orEmpty : Bool) (s : Substitute)
  | trim (atEnd longest : Bool)
  /-- Something that is no question. -/
  | meaningless

/-- The parameter that a text in braces begins with, whether it is asked for its length,
and how many characters that takes. -/
def bracedParameter? (text : Octets) : Option (Parameter × Bool × Nat) :=
  match wordParameter? text with
  | some (p, n) => some (p, false, n)
  | none =>
    match text with
    | '#' :: rest =>
      match wordParameter? rest with
      | some (p, n) => some (p, true, n + 1)
      | none =>
        match rest with
        | c :: '\x7d' :: _ =>
          if c = '\x7d' then some (.count, false, 1) else (special? c).map fun p => (p, true, 2)
        | _ => some (.count, false, 1)
    | c :: _ => (special? c).map fun p => (p, false, 1)
    | [] => none

/-- How many characters stand where a parameter should. -/
def meaninglessLength : Octets → Nat
  | '\x7d' :: _ => 0
  | '#' :: _ :: _ => 2
  | [] => 0
  | _ => 1

/-- The question that stands behind a parameter, and how many characters it takes. -/
def question : Octets → Question × Nat
  | '\x7d' :: _ => (.value, 1)
  | ':' :: '-' :: _ => (.guard true .otherwise, 2)
  | ':' :: '=' :: _ => (.guard true .assigned, 2)
  | ':' :: '?' :: _ => (.guard true .failing, 2)
  | ':' :: '+' :: _ => (.guard true .instead, 2)
  | ':' :: _ => (.meaningless, 2)
  | '-' :: _ => (.guard false .otherwise, 1)
  | '=' :: _ => (.guard false .assigned, 1)
  | '?' :: _ => (.guard false .failing, 1)
  | '+' :: _ => (.guard false .instead, 1)
  | '%' :: '%' :: _ => (.trim true true, 2)
  | '%' :: _ => (.trim true false, 1)
  | '#' :: '#' :: _ => (.trim false true, 2)
  | '#' :: _ => (.trim false false, 1)
  | _ => (.meaningless, 1)

/-- The piece in braces, from behind the opening one; `inner` reads pieces. -/
def braced (inner : Mode → Reading Word) (q : Bool) : Reading Piece := do
  joinLines
  let text ← rest
  match bracedParameter? text with
  | none =>
    passOver (meaninglessLength text)
    let _ ← inner (.braced q)
    return .meaningless
  | some (p, isLength, n) =>
    skip n
    joinLines
    if isLength then
      match ← rest with
      | '\x7d' :: _ =>
        skip 1
        return .length q p
      | _ =>
        let _ ← inner (.braced q)
        return .meaningless
    else
      let text ← rest
      let (asked, n) := question text
      if text.head? = some '\n' then passOver n else skip n
      match asked with
      | .value => return .value q p
      | .length => return .length q p
      | .guard orEmpty s => return .guarded q p orEmpty s (← inner (.braced q))
      | .trim atEnd longest => return .trimmed q p atEnd longest (← inner (.braced false))
      | .meaningless =>
        let _ ← inner (.braced q)
        return .meaningless

/-! ## Commands and expressions in words -/

/-- Reads the commands that stand in words. -/
structure Scripts where
  /-- Up to a closing parenthesis, and that too. -/
  parenthesized : Reading Script
  /-- From a text of their own. -/
  ofText : Octets → Except SyntaxFault Script

/-- The text up to a backquote, and how many characters that takes; a backslash hides one,
and itself. -/
def untilBackquote (q : Bool) : Octets → Option (Octets × Nat)
  | [] => none
  | '\x60' :: _ => some ([], 1)
  | '\\' :: c :: rest =>
    (untilBackquote q rest).map fun (text, n) =>
      if c = '$' || c = '\x60' || c = '\\' || (q && c = '"') then (c :: text, n + 2)
      else ('\\' :: c :: text, n + 2)
  | c :: rest => (untilBackquote q rest).map fun (text, n) => (c :: text, n + 1)

/-- A command between backquotes, from behind the first one. -/
def backquoted (scripts : Scripts) (q : Bool) : Reading Piece := do
  let text ← rest
  match untilBackquote q text with
  | none =>
    skip text.length
    refuse .openBackquote
  | some (inside, n) =>
    skip n
    return .output q (← (scripts.ofText inside))

/-- What a dollar sign stands in front of; `inner` reads pieces. -/
def dollar (scripts : Scripts) (inner : Mode → Reading Word) (q : Bool) : Reading Piece := do
  joinLines
  match ← rest with
  | '(' :: '(' :: _ =>
    skip 2
    return .arithmetic q (← inner (.arithmetic 0))
  | '(' :: _ =>
    skip 1
    return .output q (← scripts.parenthesized)
  | '\x7b' :: _ =>
    skip 1
    braced inner q
  | text =>
    match parameter? text with
    | some (p, n) =>
      skip n
      return .value q p
    | none => return .text q ['$']

/-! ## Pieces -/

/-- Puts a piece in front of pieces. -/
def consPiece (p : Piece) (w : Word) : Word :=
  match p with
  | .text q cs => consText q cs w
  | p => p :: w

/-- Whether pieces are nothing but all arguments one by one; of none of them nothing is
left, not even an empty field. -/
def isArguments : Word → Bool
  | [.value true .each] => true
  | _ => false

/-- The pieces of a text, as far as they go in a mode. -/
def pieces (scripts : Scripts) (context : Context) : (fuel : Nat) → Mode → Reading Word
  | 0, _ => refuse .openQuote
  | fuel + 1, mode => do
    let inner := pieces scripts context fuel
    let q := mode.isQuoted
    let finished : Reading Word :=
      match mode.openCause? context with
      | some cause => refuse cause
      | none => return []
    let text ← rest
    match text with
    | [] => finished
    | c :: more =>
      match mode.end? text with
      | some n =>
        skip n
        return []
      | none =>
        if c = '\n' then
          skip 1
          let w ← if ← context.beginLine then finished else inner mode
          return consText q [c] w
        else if mode.isOrdinary c then
          let run := more.takeWhile mode.isOrdinary
          skip (run.length + 1)
          return consText q (c :: run) (← inner mode)
        else if mode.isLiteral then
          skip 1
          return consText q [c] (← inner mode)
        else if c = '$' then
          skip 1
          let p ← dollar scripts inner q
          return consPiece p (← inner mode)
        else if c = '\x60' then
          skip 1
          let p ← backquoted scripts q
          return consPiece p (← inner mode)
        else if c = '\\' then
          match more with
          | [] =>
            skip 1
            return consText true ['\\'] (← inner mode)
          | '\n' :: _ =>
            skip 2
            inner mode
          | d :: _ =>
            if mode.hides d then
              skip 2
              return consText true [d] (← inner mode)
            else
              skip 1
              return consText true ['\\'] (← inner mode)
        else if c = '\'' && !q then
          skip 1
          let w ← inner .literal
          return consText true [] (w ++ (← inner mode))
        else if c = '"' && mode.takesQuotes then
          skip 1
          let w ← inner .quoted
          let more ← inner mode
          return if isArguments w then w ++ more else consText true [] (w ++ more)
        else
          skip 1
          return consText q [c] (← inner (mode.behind c))

/-- The pieces of what is left of a text. -/
def allPieces (scripts : Scripts) (context : Context) (mode : Mode) : Reading Word := do
  pieces scripts context (2 * (← extent) + 2) mode

/-- A word. -/
def word (scripts : Scripts) : Reading Word := allPieces scripts .script .word

end Reader

end Shell

end BenchCampaign
