import BenchCampaign.NameTable
import BenchCampaign.Shell.Reader.Document
import BenchCampaign.Shell.Reader.Lexeme

/-!
# Reading scripts

A script is read command by command, and each line is read when the lines before
it have been run.  So a line that cannot be read spoils only itself and what
follows it, and a name that a line gives to a text holds from the next line on.

* `Reader.line?`: the commands of the next line.
* `Reader.quotedWord`: a text in which parameters and commands are put in.
* `Reader.list`: commands up to what ends them.
-/

namespace BenchCampaign

namespace Shell

/-- A script from which lexemes are taken. -/
structure Stream where
  source : Source
  /-- The lexeme that comes next, if it has been taken already. -/
  pending : Option Lexeme
  /-- The texts that stand for first words of commands. -/
  aliases : NameTable Octets
  /-- The aliases that stand in the text in front of a length of it. -/
  active : List (String × Nat)
  /-- The documents that stand behind the present line. -/
  awaited : List AwaitedDocument
  /-- The documents that have been read, the last one first. -/
  documents : List Word

namespace Stream

/-- The beginning of a source. -/
def ofSource (aliases : NameTable Octets) (source : Source) : Stream :=
  ⟨source, none, aliases, [], [], []⟩

/-- Commands that have been read, with their documents. -/
def fill (s : Stream) (script : Script) : Script :=
  if s.documents.isEmpty then script else ((fillScript script).run s.documents.reverse).1

end Stream

/-- Reads something from lexemes. -/
abbrev Parsing (α : Type) := StateT Stream (Except SyntaxFault) α

/-- What ends a list of commands. -/
inductive ListKind where
  /-- The end of the line. -/
  | line
  /-- What cannot begin a command; there has to be one. -/
  | needed
  /-- The same, but there may be none. -/
  | optional
deriving DecidableEq, Repr

/-- Reads commands that are part of others. -/
structure Grammar where
  list : ListKind → Parsing Script
  /-- A command, maybe behind line ends. -/
  command : Parsing Command

namespace Reader

/-! ## Lexemes -/

/-- Refuses what is read. -/
def refuse {α : Type} (cause : SyntaxCause) : Parsing α := fun s => .error ⟨cause, s.source.line⟩

/-- Refuses a lexeme in place of another one. -/
def unexpected {α : Type} (found : Lexeme) (expected : Option LexemeKind) : Parsing α :=
  refuse (.unexpected found.kind expected)

/-- Leaves a lexeme to be taken again. -/
def putBack (l : Lexeme) : Parsing Unit := modify fun s => { s with pending := some l }

/-- The present line. -/
def lineNumber : Parsing Nat := fun s => .ok (s.source.line, s)

/-- How often something may be repeated that takes from the script. -/
def repetitions : Parsing Nat := fun s => .ok (s.source.extent + 1000, s)

/-- Reads something from the source. -/
def fromSource {α : Type} (r : Reading α) : Parsing α := fun s =>
  (r.run s.source).map fun (a, source) => (a, { s with source := source })

/-- The commands that stand in words. -/
def scripts (g : Grammar) (aliases : NameTable Octets) : Scripts :=
  { parenthesized := fun source => do
      let (script, s) ← (g.list .optional).run (Stream.ofSource aliases source)
      match s.pending with
      | some (.sign .rightParenthesis) => .ok (s.fill script, s.source)
      | found =>
        .error ⟨.unexpected ((found.getD (.sign .textEnd)).kind) (some .rightParenthesis),
          s.source.line⟩
    ofText := fun text =>
      ((g.list .optional).run (Stream.ofSource aliases (Source.ofText text))).map
        fun (script, s) => s.fill script }

/-- The next lexeme as it stands there. -/
def rawLexeme (g : Grammar) : Parsing Lexeme := fun s =>
  match s.pending with
  | some l => .ok (l, { s with pending := none })
  | none => (fromSource (lexeme (scripts g s.aliases))).run s

/-- The text that stands for a first word. -/
def aliasOf? (w : Word) : Parsing (Option (String × Octets)) := fun s =>
  let active := s.active.filter fun a => a.2 < s.source.rest.length
  let found := (literal? w).bind fun cs =>
    let name := String.ofList cs
    if active.any fun a => a.1 = name then none
    else (s.aliases.get? name).map fun text => (name, text)
  .ok (found, { s with active := active })

/-- Puts the text of an alias in front of what is left. -/
def expandAlias (name : String) (text : Octets) : Parsing Unit := modify fun s =>
  { s with
    source := s.source.putInFront text
    active := (name, s.source.rest.length) :: s.active }

/-- Reads the documents that are awaited, behind the end of a line. -/
def readDocuments (g : Grammar) : Parsing Unit := do
  let s ← get
  set { s with awaited := [] }
  let words ← fromSource (s.awaited.mapM (·.read (scripts g s.aliases)))
  modify fun s => { s with documents := words.reverse ++ s.documents }

/-- The next lexeme: maybe behind line ends, with reserved words, and with aliases. -/
def token (g : Grammar) (skipsLines reserves expands : Bool) : Parsing Lexeme := do
  go (← repetitions)
where
  /-- Tries at most `fuel` lexemes. -/
  go : (fuel : Nat) → Parsing Lexeme
    | 0 => refuse .openQuote
    | fuel + 1 => do
      let l ← rawLexeme g
      match l with
      | .sign .lineEnd =>
        if skipsLines then
          readDocuments g
          go fuel
        else return l
      | .word w =>
        match if reserves then (literal? w).bind Reserved.ofText? else none with
        | some r => return .sign (.reserved r)
        | none =>
          if !expands then return l
          else match ← aliasOf? w with
            | some (name, text) =>
              expandAlias name text
              go fuel
            | none => return l
      | l => return l

/-- The next lexeme as it stands there, with nothing special about it. -/
def plainToken (g : Grammar) : Parsing Lexeme := token g false false false

/-- Takes a reserved word or sign that has to come next. -/
def expect (g : Grammar) (k : LexemeKind) : Parsing Unit := do
  let l ← plainToken g
  if l.kind = k then pure () else unexpected l (some k)

/-! ## Redirections -/

/-- The word that ends a document. -/
def stop (g : Grammar) : Parsing (Octets × Bool) := do
  fromSource do skipBlanks ((← Reading.extent) + 1)
  let text ← fromSource Reading.rest
  let (cs, isQuoted, n) := stopWord (text.length + 1) text
  if text.length < n then
    fromSource (Reading.skip text.length)
    refuse .openQuote
  else if n = 0 then
    unexpected (← plainToken g) none
  else
    fromSource (Reading.skip n)
    return (cs, isQuoted)

/-- The redirection of an operator, to which a document is still to be put in. -/
def redirection (g : Grammar) (descriptor : Nat) (op : Operator) : Parsing Redirection := do
  match op with
  | .document stripTabs =>
    let (cs, isQuoted) ← stop g
    modify fun s => { s with awaited := s.awaited ++ [⟨cs, isQuoted, stripTabs⟩] }
    return .document descriptor []
  | .to d =>
    match ← plainToken g with
    | .word w => return .of descriptor d w
    | l => unexpected l none

/-- The redirections behind a compound command.  A word behind the first of them is neither
reserved nor an alias. -/
def redirections (g : Grammar) : (fuel : Nat) → (isFirst : Bool) → Parsing (List Redirection)
  | 0, _ => return []
  | fuel + 1, isFirst => do
    match ← token g false isFirst isFirst with
    | .redirection d op =>
      let r ← redirection g d op
      return r :: (← redirections g fuel false)
    | l =>
      putBack l
      return []

/-! ## Simple commands -/

/-- The parts of a simple command. -/
structure Parts where
  assignments : List (String × Word) := []
  words : List Word := []
  redirections : List Redirection := []

/-- The body of the function that the first word of a command names. -/
def definition (g : Grammar) (name : Word) : Parsing Command := do
  expect g .rightParenthesis
  match literal? name with
  | none => refuse .functionName
  | some cs =>
    if !isName cs || specialCommands.contains (String.ofList cs) then refuse .functionName
    else return .define (String.ofList cs) (← g.command)

/-- A simple command, or the definition of a function. -/
def simple (g : Grammar) (line : Nat) : (fuel : Nat) → Parts → Parsing Command
  | 0, _ => refuse .openQuote
  | fuel + 1, p => do
    let done : Unit → Command := fun _ =>
      .simple line p.assignments.reverse p.words.reverse p.redirections.reverse
    match ← token g false false p.words.isEmpty with
    | .word w =>
      match if p.words.isEmpty then assignment? w else none with
      | some a => simple g line fuel { p with assignments := a :: p.assignments }
      | none => simple g line fuel { p with words := w :: p.words }
    | .redirection d op =>
      let r ← redirection g d op
      simple g line fuel { p with redirections := r :: p.redirections }
    | .sign .leftParenthesis =>
      match p.words with
      | [name] =>
        if p.assignments.isEmpty && p.redirections.isEmpty then definition g name
        else
          putBack (.sign .leftParenthesis)
          return done ()
      | _ =>
        putBack (.sign .leftParenthesis)
        return done ()
    | l =>
      putBack l
      return done ()

/-! ## Compound commands -/

/-- The branches of a choice, from behind the word that introduces one. -/
def choice (g : Grammar) : (fuel : Nat) → Parsing Command
  | 0 => refuse .openQuote
  | fuel + 1 => do
    let test ← g.list .needed
    expect g (.reserved .then)
    let body ← g.list .needed
    match ← plainToken g with
    | .sign (.reserved .elif) => return .choice test body [← choice g fuel]
    | .sign (.reserved .else) => return .choice test body (← g.list .needed)
    | l =>
      putBack l
      return .choice test body []

/-- A loop over a test, from behind the word that introduces it. -/
def loop (g : Grammar) (untilSuccess : Bool) : Parsing Command := do
  let test ← g.list .needed
  expect g (.reserved .do)
  return .loop untilSuccess test (← g.list .needed)

/-- The words up to the end of a line, and what ends them. -/
def wordList (g : Grammar) : (fuel : Nat) → Parsing (List Word)
  | 0 => return []
  | fuel + 1 => do
    match ← plainToken g with
    | .word w => return w :: (← wordList g fuel)
    | .sign .lineEnd => return []
    | .sign .semicolon => return []
    | l => unexpected l none

/-- A loop over words, from behind the word that introduces it. -/
def eachLoop (g : Grammar) (line : Nat) : Parsing Command := do
  let name ← match ← plainToken g with
    | .word w =>
      match literal? w with
      | some cs => if isName cs then pure (String.ofList cs) else refuse .loopVariable
      | none => refuse .loopVariable
    | _ => refuse .loopVariable
  let words ← match ← token g true true true with
    | .sign (.reserved .in) => do wordList g (← repetitions)
    | .sign .semicolon => pure [[.value true .each]]
    | l =>
      putBack l
      pure [[.value true .each]]
  match ← token g true true true with
  | .sign (.reserved .do) => return .each line name words (← g.list .needed)
  | l => unexpected l (some (.reserved .do))

/-- The patterns of an arm, up to the parenthesis. -/
def patterns (g : Grammar) : (fuel : Nat) → (first : Word) → Parsing (List Word)
  | 0, _ => refuse .openQuote
  | fuel + 1, first => do
    match ← plainToken g with
    | .sign .pipe =>
      let next ← plainToken g
      return first :: (← patterns g fuel next.asWord)
    | .sign .rightParenthesis => return [first]
    | l => unexpected l (some .rightParenthesis)

/-- The arms of a case distinction, up to its end. -/
def arms (g : Grammar) : (fuel : Nat) → Parsing (List (List Word × Script))
  | 0 => refuse .openQuote
  | fuel + 1 => do
    match ← token g true true false with
    | .sign (.reserved .esac) => return []
    | l =>
      let first ← match l with
        | .sign .leftParenthesis => plainToken g
        | l => pure l
      let ps ← patterns g (← repetitions) first.asWord
      let body ← g.list .optional
      match ← token g true true false with
      | .sign (.reserved .esac) => return [(ps, body)]
      | .sign .armEnd => return (ps, body) :: (← arms g fuel)
      | l => unexpected l (some .armEnd)

/-- A case distinction, from behind the word that introduces it. -/
def caseDistinction (g : Grammar) (line : Nat) : Parsing Command := do
  match ← plainToken g with
  | .word subject =>
    match ← token g true true true with
    | .sign (.reserved .in) => return .cases line subject (← arms g (← repetitions))
    | l => unexpected l (some (.reserved .in))
  | l => unexpected l (some .word)

/-- A compound command with the redirections behind it. -/
def redirected (g : Grammar) (line : Nat) (c : Command) : Parsing Command := do
  let rs ← redirections g (← repetitions) true
  match c with
  | .subshell line body _ => return .subshell line body rs
  | c => if rs.isEmpty then return c else return .redirected line c rs

/-- A command that is not made of others with operators. -/
def command (g : Grammar) (skipsLines : Bool) : Parsing Command := do
  let line ← lineNumber
  let ending (k : LexemeKind) (c : Command) : Parsing Command := do
    expect g k
    redirected g line c
  match ← token g skipsLines true true with
  | .word w =>
    putBack (.word w)
    simple g (← lineNumber) (← repetitions) {}
  | .redirection d op =>
    putBack (.redirection d op)
    simple g (← lineNumber) (← repetitions) {}
  | .sign .leftParenthesis =>
    ending .rightParenthesis (.subshell line (← g.list .needed) [])
  | .sign (.reserved .beginning) =>
    ending (.reserved .ending) (.group (← g.list .needed))
  | .sign (.reserved .if) => ending (.reserved .fi) (← choice g (← repetitions))
  | .sign (.reserved .while) => ending (.reserved .done) (← loop g false)
  | .sign (.reserved .until) => ending (.reserved .done) (← loop g true)
  | .sign (.reserved .for) => ending (.reserved .done) (← eachLoop g line)
  | .sign (.reserved .case) => redirected g line (← caseDistinction g line)
  | l => unexpected l none

/-! ## Commands that operators join -/

/-- The commands that pipes join to one that is read. -/
def stages (g : Grammar) : (fuel : Nat) → Command → Parsing (List Command)
  | 0, first => return [first]
  | fuel + 1, first => do
    match ← plainToken g with
    | .sign .pipe =>
      let next ← command g true
      return first :: (← stages g fuel next)
    | l =>
      putBack l
      return [first]

/-- Commands in a pipeline, maybe behind line ends. -/
def pipeline (g : Grammar) : Parsing Command := do
  let joined (first : Command) : Parsing Command := do
    match ← stages g (← repetitions) first with
    | [c] => return c
    | cs => return .pipeline cs
  match ← token g true true true with
  | .sign (.reserved .bang) => return .negation (← joined (← command g false))
  | l =>
    putBack l
    joined (← command g true)

/-- The pipelines that follow a command under a condition. -/
def conditions (g : Grammar) : (fuel : Nat) → Command → Parsing Command
  | 0, first => return first
  | fuel + 1, first => do
    match ← plainToken g with
    | .sign .both => conditions g fuel (.chain true first (← pipeline g))
    | .sign .either => conditions g fuel (.chain false first (← pipeline g))
    | l =>
      putBack l
      return first

/-- The commands of a list that a lexeme begins, and those behind them. -/
def listFrom (g : Grammar) (kind : ListKind) : (fuel : Nat) → (isFirst : Bool) → Parsing Script
  | 0, _ => return []
  | fuel + 1, isFirst => do
    let l ← token g (kind != ListKind.line) true true
    let isOver := match l.kind with
      | .lineEnd => true
      | .textEnd => true
      | k => k.isClosing && (kind == ListKind.optional || (kind == ListKind.needed && !isFirst))
    if isOver then
      if l.kind != LexemeKind.lineEnd then putBack l else readDocuments g
      return []
    else
      putBack l
      let line ← lineNumber
      let c ← conditions g (← repetitions) (← pipeline g)
      let l ← plainToken g
      match l with
      | .sign .ampersand => return .background line c :: (← listFrom g kind fuel false)
      | .sign .semicolon => return c :: (← listFrom g kind fuel false)
      | .sign .lineEnd =>
        putBack l
        return c :: (← listFrom g kind fuel false)
      | .sign .textEnd =>
        putBack l
        return [c]
      | l =>
        if kind == ListKind.line then unexpected l none
        else
          putBack l
          return [c]

/-! ## Scripts -/

/-- How commands are read that are part of others, to a depth. -/
def grammar : (depth : Nat) → Grammar
  | 0 => ⟨fun _ => refuse .openQuote, refuse .openQuote⟩
  | depth + 1 =>
    let g := grammar depth
    ⟨fun kind => do listFrom g kind (← repetitions) true, command g true⟩

/-- How deep commands can stand in each other. -/
def maxDepth : Nat := 400

/-- The commands of the next line and what is left, or nothing at the end. -/
def line? (aliases : NameTable Octets) (s : Source) :
    Except SyntaxFault (Option (Script × Source)) := do
  let (script, after) ← ((grammar maxDepth).list .line).run (Stream.ofSource aliases s)
  return if script.isEmpty && after.source.rest.isEmpty then none
    else some (after.fill script, after.source)

/-- The word that a text is between double quotation marks. -/
def quotedWord (aliases : NameTable Octets) (text : Octets) : Except SyntaxFault Word :=
  ((allPieces (scripts (grammar maxDepth) aliases) .text (.whole false)).run
    (Source.ofText text)).map Prod.fst

end Reader

end Shell

end BenchCampaign
