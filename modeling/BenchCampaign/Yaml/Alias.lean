import BenchCampaign.Yaml.Node

/-!
# Resolving aliases

An anchor is numbered by how many different names were anchored before it, and
an alias refers to the number that its name has at that place; what a number
stands for is the last node that received it.  So a name that is anchored again
may take the number of the next new name, and share its node.

Collections nest to a fixed depth, also through aliases, and aliases may be
followed only so many times for the size of the document.

* `Written.numbered?`: names replaced by numbers.
* `Written.resolve?`: the tree without aliases.
-/

namespace BenchCampaign

namespace Yaml

namespace Written

/-! ## Numbers for names -/

/-- The numbers of names, each name once. -/
abbrev Numbers := List (String × Nat)

/-- Gives a name the next number. -/
def number (numbers : Numbers) (name : String) : Numbers :=
  (name, numbers.length) :: numbers.filter fun e => e.1 ≠ name

/-- The number of an anchor, and the numbers from there on. -/
def numberAnchor (numbers : Numbers) : Option String → Option Nat × Numbers
  | none => (none, numbers)
  | some name => (some numbers.length, number numbers name)

mutual

/-- Replaces names by numbers; fails at an alias of a name that is not anchored yet. -/
def numberFrom : Numbers → Written String → Option (Written Nat × Numbers)
  | numbers, .alias name =>
    ((numbers.find? fun e => e.1 = name).map Prod.snd).map fun n => (.alias n, numbers)
  | numbers, .scalar anchor tag style text =>
    let (a, numbers) := numberAnchor numbers anchor
    some (.scalar a tag style text, numbers)
  | numbers, .sequence anchor tag items =>
    let (a, numbers) := numberAnchor numbers anchor
    (numberItems numbers items).map fun r => (.sequence a tag r.1, r.2)
  | numbers, .mapping anchor tag entries =>
    let (a, numbers) := numberAnchor numbers anchor
    (numberEntries numbers entries).map fun r => (.mapping a tag r.1, r.2)

/-- The same for every item. -/
def numberItems : Numbers → List (Written String) → Option (List (Written Nat) × Numbers)
  | numbers, [] => some ([], numbers)
  | numbers, n :: rest =>
    match numberFrom numbers n with
    | none => none
    | some (n, numbers) => (numberItems numbers rest).map fun r => (n :: r.1, r.2)

/-- The same for every key and value. -/
def numberEntries : Numbers → List (Written String × Written String) →
    Option (List (Written Nat × Written Nat) × Numbers)
  | numbers, [] => some ([], numbers)
  | numbers, (k, v) :: rest =>
    match numberFrom numbers k with
    | none => none
    | some (k, numbers) =>
      match numberFrom numbers v with
      | none => none
      | some (v, numbers) => (numberEntries numbers rest).map fun r => ((k, v) :: r.1, r.2)

end

/-- A node with its names replaced by numbers. -/
def numbered? (n : Written String) : Option (Written Nat) :=
  (numberFrom [] n).map Prod.fst

/-! ## What numbers stand for -/

/-- A node in front of others, if it is anchored. -/
def anchored (label : Option Nat) (n : Written Nat) (below : List (Nat × Written Nat)) :
    List (Nat × Written Nat) :=
  match label with
  | some l => (l, n) :: below
  | none => below

mutual

/-- The anchored nodes of a tree, a node before those in it. -/
def anchors : Written Nat → List (Nat × Written Nat)
  | .alias _ => []
  | n@(.scalar a _ _ _) => anchored a n []
  | n@(.sequence a _ items) => anchored a n (anchorsOfItems items)
  | n@(.mapping a _ entries) => anchored a n (anchorsOfEntries entries)

/-- The anchored nodes of all items. -/
def anchorsOfItems : List (Written Nat) → List (Nat × Written Nat)
  | [] => []
  | n :: rest => anchors n ++ anchorsOfItems rest

/-- The anchored nodes of all keys and values. -/
def anchorsOfEntries : List (Written Nat × Written Nat) → List (Nat × Written Nat)
  | [] => []
  | (k, v) :: rest => anchors k ++ anchors v ++ anchorsOfEntries rest

end

/-- The last node of a number. -/
def target? (table : List (Nat × Written Nat)) (label : Nat) : Option (Written Nat) :=
  (table.reverse.find? fun e => e.1 = label).map Prod.snd

/-! ## Resolving -/

mutual

/-- The size of a tree: one for a scalar or an alias, two for a collection. -/
def size : Written Nat → Nat
  | .alias _ => 1
  | .scalar _ _ _ _ => 1
  | .sequence _ _ items => 2 + sizeOfItems items
  | .mapping _ _ entries => 2 + sizeOfEntries entries

/-- The size of all items. -/
def sizeOfItems : List (Written Nat) → Nat
  | [] => 0
  | n :: rest => size n + sizeOfItems rest

/-- The size of all keys and values. -/
def sizeOfEntries : List (Written Nat × Written Nat) → Nat
  | [] => 0
  | (k, v) :: rest => size k + size v + sizeOfEntries rest

end

/-- The number of collections that may be open at a time. -/
def maxDepth : Nat := 128

/-- Resolving counts how many more aliases may be followed. -/
abbrev Resolving := StateT Nat Option

/-- Follows one alias. -/
def followOne : Resolving Unit := do
  match ← get with
  | 0 => failure
  | n + 1 => set n

/-- Replaces aliases by what they stand for; `depth` collections may be opened. -/
def resolveFrom (table : List (Nat × Written Nat)) :
    Nat → (depth : Nat) → Written Nat → Resolving Node
  | 0, _, _ => failure
  | fuel + 1, depth, n =>
    match n with
    | .alias label => do
      followOne
      match target? table label with
      | some n => resolveFrom table fuel depth n
      | none => failure
    | .scalar _ tag style text => pure (.scalar tag style text)
    | .sequence _ tag items => do
      if depth = 0 then failure
      else return .sequence tag (← items.mapM (resolveFrom table fuel (depth - 1)))
    | .mapping _ tag entries => do
      if depth = 0 then failure
      else return .mapping tag (← entries.mapM fun e => do
        let k ← resolveFrom table fuel (depth - 1) e.1
        let v ← resolveFrom table fuel (depth - 1) e.2
        return (k, v))

/-- The tree without aliases. -/
def resolve? (n : Written Nat) : Option Node :=
  ((resolveFrom (anchors n) (2 * maxDepth + 2) maxDepth n).run (100 * size n)).map Prod.fst

end Written

end Yaml

end BenchCampaign
