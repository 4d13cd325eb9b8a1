import BenchCampaign.Shell.Octets

/-!
# The place in a script

A script is read from its beginning to its end, and a fault is told by the line
that it is found in.

* `Source.drop`: some characters further.
* `Source.joinLines`: behind line ends that do not count.
-/

namespace BenchCampaign

namespace Shell

/-- What is left of a script to be read, and the line that it begins in. -/
structure Source where
  rest : Octets
  line : Nat
  /-- How many characters have been put into the source in all. -/
  extent : Nat

namespace Source

/-- The beginning of a script. -/
def ofText (text : Octets) : Source := ⟨text, 1, text.length⟩

/-- Some characters further. -/
def drop (s : Source) : Nat → Source
  | 0 => s
  | n + 1 =>
    match s.rest with
    | [] => s
    | '\n' :: rest => drop { s with rest := rest, line := s.line + 1 } n
    | _ :: rest => drop { s with rest := rest } n

/-- Behind the characters that `p` holds of. -/
def dropWhile (s : Source) (p : Char → Bool) : Source := s.drop (s.rest.takeWhile p).length

/-- Behind line ends that a backslash hides. -/
def joinLines (s : Source) : Source :=
  match s with
  | ⟨'\\' :: '\n' :: rest, line, extent⟩ => joinLines ⟨rest, line + 1, extent⟩
  | s => s
termination_by s.rest.length

/-- With a text in front. -/
def putInFront (s : Source) (text : Octets) : Source :=
  { s with rest := text ++ s.rest, extent := s.extent + text.length }

end Source

end Shell

end BenchCampaign
