/-!
# JSON values

A document as a tree.  An object keeps its members as they are written, with
repetitions; a number keeps only what a decoder of whole numbers asks about.
-/

namespace BenchCampaign

namespace Json

/-- A number: a whole one within 64 bits, or any other. -/
inductive Number where
  | natural (n : Nat)
  | negative (n : Int)
  | other
deriving DecidableEq, Repr

end Json

/-- A JSON document. -/
inductive Json where
  | null
  | bool (b : Bool)
  | number (n : Json.Number)
  | string (s : String)
  | array (items : List Json)
  | object (members : List (String × Json))
deriving Repr

namespace Json

/-- The number of a value, if it is a natural one. -/
def natural? : Json → Option Nat
  | number (.natural n) => some n
  | _ => none

/-- The text of a value, if it is a string. -/
def string? : Json → Option String
  | string s => some s
  | _ => none

/-- The members of an object under a key. -/
def lookup (members : List (String × Json)) (key : String) : List Json :=
  (members.filter fun m => m.1 = key).map Prod.snd

/-- The member under a key that stands exactly once. -/
def member? (members : List (String × Json)) (key : String) : Option Json :=
  match lookup members key with
  | [v] => some v
  | _ => none

end Json

end BenchCampaign
