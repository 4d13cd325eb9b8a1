import BenchCampaign.Shell.Reader.Word

/-!
# Lexemes

A script is a sequence of words and signs.

* `Lexeme`: a word, a sign, or the beginning of a redirection.
* `Reader.lexeme`: the next lexeme.
-/

namespace BenchCampaign

namespace Shell

/-- What an operator of redirection asks for. -/
inductive Operator where
  | to (d : Direction)
  | document (stripTabs : Bool)
deriving DecidableEq, Repr

/-- A lexeme. -/
inductive Lexeme where
  | sign (k : LexemeKind)
  | redirection (descriptor : Nat) (op : Operator)
  | word (w : Word)

namespace Lexeme

/-- The kind of a lexeme. -/
def kind : Lexeme → LexemeKind
  | sign k => k
  | redirection _ _ => .redirection
  | word _ => .word

/-- The word that a lexeme is, also one that is reserved. -/
def asWord : Lexeme → Word
  | sign (.reserved r) => [.text false r.text.toList]
  | word w => w
  | _ => []

end Lexeme

namespace Reader

open Reading

/-! ## Redirections -/

/-- The operator that a text begins with, with the descriptor that it means by itself, and
its length. -/
def operator? : Octets → Option (Nat × Operator × Nat)
  | '<' :: '<' :: '-' :: _ => some (0, .document true, 3)
  | '<' :: '<' :: _ => some (0, .document false, 2)
  | '<' :: '&' :: _ => some (0, .to .sameAs, 2)
  | '<' :: '>' :: _ => some (0, .to .readingAndWriting, 2)
  | '<' :: _ => some (0, .to .reading, 1)
  | '>' :: '>' :: _ => some (1, .to .appending, 2)
  | '>' :: '&' :: _ => some (1, .to .sameAs, 2)
  | '>' :: '|' :: _ => some (1, .to .overwriting, 2)
  | '>' :: _ => some (1, .to .writing, 1)
  | _ => none

/-- The redirection that a text begins with, which may have a digit in front, and its
length. -/
def redirection? : Octets → Option (Lexeme × Nat)
  | [] => none
  | c :: rest =>
    match operator? (c :: rest) with
    | some (d, op, n) => some (.redirection d op, n)
    | none =>
      if c.isDigit then
        (operator? rest).map fun (_, op, n) => (.redirection (c.toNat - '0'.toNat) op, n + 1)
      else none

/-! ## Lexemes -/

/-- The sign that a text begins with, and its length. -/
def sign? : Octets → Option (LexemeKind × Nat)
  | [] => some (.textEnd, 0)
  | '\n' :: _ => some (.lineEnd, 1)
  | '&' :: '&' :: _ => some (.both, 2)
  | '&' :: _ => some (.ampersand, 1)
  | '|' :: '|' :: _ => some (.either, 2)
  | '|' :: _ => some (.pipe, 1)
  | ';' :: ';' :: _ => some (.armEnd, 2)
  | ';' :: _ => some (.semicolon, 1)
  | '(' :: _ => some (.leftParenthesis, 1)
  | ')' :: _ => some (.rightParenthesis, 1)
  | _ => none

/-- Takes blanks and a comment. -/
def skipBlanks : (fuel : Nat) → Reading Unit
  | 0 => pure ()
  | fuel + 1 => do
    joinLines
    match ← rest with
    | '#' :: text => skip ((text.takeWhile (· ≠ '\n')).length + 1)
    | c :: _ =>
      if c = ' ' || c = '\t' then
        skip 1
        skipBlanks fuel
      else pure ()
    | [] => pure ()

/-- The next lexeme. -/
def lexeme (scripts : Scripts) : Reading Lexeme := do
  skipBlanks ((← extent) + 1)
  let text ← rest
  match sign? text with
  | some (k, n) =>
    skip n
    return .sign k
  | none =>
    match redirection? text with
    | some (l, n) =>
      skip n
      return l
    | none => return .word (← word scripts)

end Reader

end Shell

end BenchCampaign
