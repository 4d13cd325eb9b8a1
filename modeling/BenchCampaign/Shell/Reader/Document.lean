import BenchCampaign.Shell.Reader.Word

/-!
# Documents in scripts

A redirection can ask for a document, which begins behind the end of the line
and goes on to a line that is a given word.  If any of that word is quoted,
nothing in the document is special.  A command is read before its documents
are, so they are put in afterwards, in the order in which they are asked for.

* `Reader.stopWord`: the word that ends a document.
* `AwaitedDocument.read`: a document.
* `fillScript`: commands with their documents.
-/

namespace BenchCampaign

namespace Shell

/-- A document that a redirection asks for. -/
structure AwaitedDocument where
  stop : Octets
  isQuoted : Bool
  stripTabs : Bool
deriving DecidableEq, Repr

namespace Reader

/-! ## The word that ends a document -/

/-- The text up to a double quotation mark, without the backslashes that take a meaning, and
how long that is with the mark. -/
def quotedStop : Octets → Octets × Nat
  | [] => ([], 1)
  | '"' :: _ => ([], 1)
  | '\\' :: c :: rest =>
    let (cs, n) := quotedStop rest
    (if c = '"' || c = '\\' || c = '$' || c = '\x60' then c :: cs else '\\' :: c :: cs, n + 2)
  | c :: rest =>
    let (cs, n) := quotedStop rest
    (c :: cs, n + 1)

/-- The word that ends a document, whether any of it is quoted, and its length, which is
more than there is where a quotation mark is not closed. -/
def stopWord : (fuel : Nat) → Octets → Octets × Bool × Nat
  | 0, _ => ([], false, 0)
  | _, [] => ([], false, 0)
  | fuel + 1, c :: rest =>
    let behind : Octets × Nat → Octets × Bool × Nat := fun (inside, length) =>
      let (cs, _, n) := stopWord fuel (rest.drop length)
      (inside ++ cs, true, length + 1 + n)
    if isMeta c then ([], false, 0)
    else if c = '\'' then
      let inside := rest.takeWhile (· ≠ '\'')
      behind (inside, inside.length + 1)
    else if c = '"' then behind (quotedStop rest)
    else if c = '\\' then
      let (cs, _, n) := stopWord fuel (rest.drop 1)
      (rest.take 1 ++ cs, true, 2 + n)
    else
      let (cs, isQuoted, n) := stopWord fuel rest
      (c :: cs, isQuoted, n + 1)

end Reader

/-! ## Documents -/

open Reader Reading in
/-- A document, from the beginning of a line to the line that ends it. -/
def AwaitedDocument.read (scripts : Scripts) (d : AwaitedDocument) : Reading Word := do
  let context := Context.document d.stop d.stripTabs
  if !d.isQuoted then joinLines
  if ← context.beginLine then return []
  else allPieces scripts context (.whole d.isQuoted)

/-! ## Commands with documents -/

/-- Takes from documents. -/
abbrev Filling (α : Type) := StateM (List Word) α

/-- A redirection with the document that it asks for; where there is none, it is empty. -/
def Redirection.fill : Redirection → Filling Redirection
  | .document descriptor _ => fun documents =>
    (.document descriptor (documents.head?.getD []), documents.tail)
  | r => pure r

mutual

/-- A command with the documents that it asks for. -/
def Command.fill : Command → Filling Command
  | .simple line assignments words rs => do
    return .simple line assignments words (← rs.mapM Redirection.fill)
  | .group body => do return .group (← fillScript body)
  | .subshell line body rs => do
    let body ← fillScript body
    return .subshell line body (← rs.mapM Redirection.fill)
  | .redirected line body rs => do
    let body ← body.fill
    return .redirected line body (← rs.mapM Redirection.fill)
  | .choice test body otherwise => do
    let test ← fillScript test
    let body ← fillScript body
    return .choice test body (← fillScript otherwise)
  | .loop untilSuccess test body => do
    let test ← fillScript test
    return .loop untilSuccess test (← fillScript body)
  | .each line name words body => do return .each line name words (← fillScript body)
  | .cases line subject arms => do return .cases line subject (← fillArms arms)
  | .define name body => do return .define name (← body.fill)
  | .pipeline stages => do return .pipeline (← fillScript stages)
  | .negation body => do return .negation (← body.fill)
  | .chain onSuccess first second => do
    let first ← first.fill
    return .chain onSuccess first (← second.fill)
  | .background line c => do return .background line (← c.fill)

/-- Commands with the documents that they ask for. -/
def fillScript : List Command → Filling (List Command)
  | [] => return []
  | c :: rest => do
    let c ← c.fill
    return c :: (← fillScript rest)

/-- The arms of a case distinction with the documents that they ask for. -/
def fillArms : List (List (List Piece) × List Command) →
    Filling (List (List (List Piece) × List Command))
  | [] => return []
  | (patterns, body) :: rest => do
    let body ← fillScript body
    return (patterns, body) :: (← fillArms rest)

end

end Shell

end BenchCampaign
