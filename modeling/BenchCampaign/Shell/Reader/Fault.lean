import BenchCampaign.Shell.Reader.Source

/-!
# What cannot be read

A script that is not well formed is refused where the fault is noticed, with the
lexeme that does not fit there and the one that would.

* `Reserved`, `Lexeme`: the words and signs of scripts.
* `SyntaxFault.text`: a fault in words.
* `Reading`: reads something from a source.
-/

namespace BenchCampaign

namespace Shell

/-- The words that are commands by themselves, or parts of them. -/
inductive Reserved where
  | bang
  | case
  | do
  | done
  | elif
  | else
  | esac
  | fi
  | for
  | if
  | in
  | then
  | until
  | while
  | beginning
  | ending
deriving DecidableEq, Repr

namespace Reserved

/-- All reserved words. -/
def all : List Reserved :=
  [bang, .case, .do, .done, .elif, .else, .esac, .fi, .for, .if, .in, .then, .until, .while,
    beginning, ending]

/-- A reserved word as it is written. -/
def text : Reserved → String
  | bang => "!"
  | .case => "case"
  | .do => "do"
  | .done => "done"
  | .elif => "elif"
  | .else => "else"
  | .esac => "esac"
  | .fi => "fi"
  | .for => "for"
  | .if => "if"
  | .in => "in"
  | .then => "then"
  | .until => "until"
  | .while => "while"
  | beginning => "\x7b"
  | ending => "\x7d"

/-- Whether a word ends the commands in front of it. -/
def isClosing (r : Reserved) : Bool :=
  [.do, .done, .elif, .else, .esac, .fi, .then, ending].contains r

/-- The reserved word that a text spells. -/
def ofText? (cs : Octets) : Option Reserved := all.find? fun r => r.text.toList = cs

end Reserved

/-- The kinds of lexemes. -/
inductive LexemeKind where
  | textEnd
  | lineEnd
  | semicolon
  | ampersand
  | both
  | either
  | pipe
  | leftParenthesis
  | rightParenthesis
  | armEnd
  | redirection
  | word
  | reserved (r : Reserved)
deriving DecidableEq, Repr

namespace LexemeKind

/-- A kind of lexemes in words. -/
def text : LexemeKind → String
  | textEnd => "end of file"
  | lineEnd => "newline"
  | semicolon => "\";\""
  | ampersand => "\"&\""
  | both => "\"&&\""
  | either => "\"||\""
  | pipe => "\"|\""
  | leftParenthesis => "\"(\""
  | rightParenthesis => "\")\""
  | armEnd => "\";;\""
  | redirection => "redirection"
  | word => "word"
  | reserved r => "\"" ++ r.text ++ "\""

/-- Whether commands that are part of another one end in front of a lexeme. -/
def isClosing : LexemeKind → Bool
  | textEnd => true
  | rightParenthesis => true
  | armEnd => true
  | reserved r => r.isClosing
  | _ => false

end LexemeKind

/-- Why a script cannot be read. -/
inductive SyntaxCause where
  | unexpected (found : LexemeKind) (expected : Option LexemeKind)
  | openQuote
  | openBrace
  | openArithmetic
  | openBackquote
  | loopVariable
  | functionName
deriving DecidableEq, Repr

/-- Why a script cannot be read, and where. -/
structure SyntaxFault where
  cause : SyntaxCause
  line : Nat
deriving DecidableEq, Repr

namespace SyntaxFault

/-- A fault in words. -/
def text (f : SyntaxFault) : String :=
  "Syntax error: " ++ match f.cause with
    | .unexpected found none => found.text ++ " unexpected"
    | .unexpected found (some k) => found.text ++ " unexpected (expecting " ++ k.text ++ ")"
    | .openQuote => "Unterminated quoted string"
    | .openBrace => "Missing '\x7d'"
    | .openArithmetic => "Missing '))'"
    | .openBackquote => "EOF in backquote substitution"
    | .loopVariable => "Bad for loop variable"
    | .functionName => "Bad function name"

end SyntaxFault

/-- Reads something from a source. -/
abbrev Reading (α : Type) := StateT Source (Except SyntaxFault) α

namespace Reading

/-- Refuses what is read. -/
def refuse {α : Type} (cause : SyntaxCause) : Reading α := fun s => .error ⟨cause, s.line⟩

/-- What is left to be read. -/
def rest : Reading Octets := fun s => .ok (s.rest, s)

/-- How many characters there are at most to be read. -/
def extent : Reading Nat := fun s => .ok (s.extent, s)

/-- Takes some characters. -/
def skip (n : Nat) : Reading Unit := fun s => .ok ((), s.drop n)

/-- Takes some characters, of which no line end counts. -/
def passOver (n : Nat) : Reading Unit := fun s => .ok ((), { s with rest := s.rest.drop n })

/-- Takes line ends that a backslash hides. -/
def joinLines : Reading Unit := fun s => .ok ((), s.joinLines)

/-- Takes the characters that `p` holds of. -/
def takeWhile (p : Char → Bool) : Reading Octets := fun s =>
  .ok (s.rest.takeWhile p, s.dropWhile p)

end Reading

end Shell

end BenchCampaign
