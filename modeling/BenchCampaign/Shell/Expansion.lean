import BenchCampaign.Shell.Arithmetic
import BenchCampaign.Shell.Session

/-!
# Expanding words

A word becomes any number of fields: parameters and commands are replaced by
their text, text that comes out of them unquoted is split where separators
stand, and patterns are replaced by the names of files.

* `State.fields`: the fields of words.
* `State.text`: the text of a word that is not split.
* `State.pattern`: the pattern of a word.
-/

namespace BenchCampaign

namespace Shell

/-- A part of an expanded word. -/
inductive Fragment where
  /-- Text that is written in the script. -/
  | written (cs : Octets)
  | quoted (cs : Octets)
  /-- Text that is split. -/
  | split (cs : Octets)
  /-- Between two arguments. -/
  | boundary
  /-- Behind arguments that are put in one by one, each as it is: in the next text that is
  split, white space separates like any other character. -/
  | seam
deriving DecidableEq, Repr

namespace Fragment

/-- The text of a fragment, with `joint` between arguments. -/
def text (joint : Octets) : Fragment → Octets
  | written cs => cs
  | quoted cs => cs
  | split cs => cs
  | boundary => joint
  | seam => []

/-- A fragment as characters that may be quoted. -/
def field (joint : Octets) : Fragment → Field
  | quoted cs => Field.ofOctets true cs
  | f => Field.ofOctets false (f.text joint)

/-- What is left of a fragment when it stands in for a value: unquoted, it is split. -/
def substituted (q : Bool) : Fragment → Fragment
  | written cs => if q then quoted cs else split cs
  | f => f

/-- A value that is put in. -/
def ofValue (q : Bool) (cs : Octets) : Fragment := if q then quoted cs else split cs

/-- Arguments that are put in one by one. -/
def ofArguments (q : Bool) (arguments : List Octets) : List Fragment :=
  (arguments.map (ofValue q)).intersperse boundary ++
    (if q && !arguments.isEmpty then [seam] else [])

/-- The text of all fragments. -/
def join (joint : Octets) (fs : List Fragment) : Octets := fs.flatMap (text joint)

end Fragment

/-! ## Tildes -/

/-- Expands words to fragments. -/
abbrev Expander := Word → State → List Fragment × State

namespace State

/-- The directory that a tilde with a name behind it stands for. -/
def home? (st : State) (name : Octets) : Option Octets :=
  if name.isEmpty then st.binding? "HOME"
  else if name = "root".toList then some "/root".toList
  else none

/-- Splits the text behind a tilde: the directory, if there is one, and what follows.
`isEnd` tells whether a character ends the name, and `isLast` whether nothing follows the
text. -/
def tilde? (st : State) (isEnd : Char → Bool) (isLast : Bool) (text : Octets) :
    Option (Octets × Octets) :=
  let name := text.takeWhile fun c => !isEnd c
  let rest := text.drop name.length
  if rest.isEmpty && !isLast then none
  else (st.home? name).map fun home => (home, rest)

/-- Puts quoted text in front of pieces, if there is any. -/
def consHome (home : Octets) (w : Word) : Word := if home.isEmpty then w else .text true home :: w

/-- Replaces a tilde at the beginning of a word. -/
def withHome (st : State) : Word → Word
  | .text false ('~' :: text) :: more =>
    match st.tilde? (· = '/') more.isEmpty text with
    | some (home, rest) =>
      consHome home (if rest.isEmpty then more else Reader.consText false rest more)
    | none => .text false ('~' :: text) :: more
  | w => w

/-- Replaces tildes at the beginning of a text and behind its colons. -/
def homesIn (st : State) (isLast : Bool) : (fuel : Nat) → (isStart : Bool) → Octets → Word
  | 0, _, text => [.text false text]
  | _, _, [] => []
  | fuel + 1, isStart, c :: text =>
    let other : Unit → Word := fun _ =>
      Reader.consText false [c] (homesIn st isLast fuel (c = ':') text)
    if isStart && c = '~' then
      match st.tilde? (fun c => c = '/' || c = ':') isLast text with
      | some (home, rest) => consHome home (homesIn st isLast fuel false rest)
      | none => other ()
    else other ()

/-- Replaces tildes in a value that is assigned. -/
def withHomes (st : State) (w : Word) : Word :=
  go true w
where
  /-- Goes through the pieces; `isStart` if a tilde may come first. -/
  go (isStart : Bool) : Word → Word
    | [] => []
    | .text false cs :: rest =>
      homesIn st rest.isEmpty (cs.length + 1) isStart cs ++ go (cs.getLast? = some ':') rest
    | p :: rest => p :: go false rest

/-! ## Parameters -/

/-- The fragments of a parameter's value. -/
def expandValue (q : Bool) (p : Parameter) (st : State) : List Fragment × State :=
  match p with
  | .each => (Fragment.ofArguments q st.arguments, st)
  | .joined =>
    if q then ([.quoted (st.joint.intercalate st.arguments)], st)
    else (Fragment.ofArguments false st.arguments, st)
  | p =>
    match st.value? p with
    | some cs => ([.ofValue q cs], st)
    | none =>
      if st.has 'u' then ([], st.fail (.notSet p.text))
      else (if q then [.quoted []] else [], st)

/-- Whether a parameter has no value, or none but the empty one. -/
def isMissing (st : State) (p : Parameter) (orEmpty : Bool) : Bool :=
  match p with
  | .each => orEmpty && (st.arguments.all List.isEmpty) && st.arguments.length < 2
  | .joined => orEmpty && (st.arguments.all List.isEmpty) && st.arguments.length < 2
  | p =>
    match st.value? p with
    | none => true
    | some cs => orEmpty && cs.isEmpty

/-- The fragments of a guarded value. -/
def expandGuarded (expand : Expander) (q : Bool) (p : Parameter) (orEmpty : Bool)
    (s : Substitute) (word : Word) (st : State) : List Fragment × State :=
  let isMissing := st.isMissing p orEmpty
  let word := if q then word else st.withHome word
  let substitute : Unit → List Fragment × State := fun _ =>
    let (fs, st) := expand word st
    (fs.map (Fragment.substituted q), st)
  match s with
  | .instead => if isMissing then ([.ofValue q []], st) else substitute ()
  | .otherwise => if isMissing then substitute () else expandValue q p st
  | .failing =>
    if !isMissing then expandValue q p st
    else
      let (fs, st) := expand word st
      if !st.isRunning then ([], st)
      else
        let text := Fragment.join st.joint fs
        let complaint := if !word.isEmpty then .missingValue p.text text
          else if orEmpty then .notSetOrNull p.text else .notSet p.text
        ([], st.fail complaint)
  | .assigned =>
    if !isMissing then expandValue q p st
    else
      let (fs, st) := expand word st
      if !st.isRunning then ([], st)
      else
        let text := Fragment.join st.joint fs
        match p with
        | .named name => ([.ofValue q text], st.assign name text)
        | _ => ([], st.fail (.badName p.text))

/-! ## Expressions -/

/-- The value of an expression. -/
def evaluate (st : State) (text : Octets) : Int × State :=
  match Arithmetic.value st.binding? text with
  | .ok (n, assigned) =>
    (n, assigned.foldl (fun st v =>
      if st.isRunning then st.assign v.1 (Octets.ofInt v.2) else st) st)
  | .error (.cause c) => (0, st.fail (.arithmetic c text))
  | .error (.illegalNumber text) => (0, st.fail (.illegalNumber text))

/-! ## Pieces -/

/-- The fragments of a piece. -/
def expandPiece (run : Runner) (expand : Expander) (piece : Piece) (st : State) :
    List Fragment × State :=
  match piece with
  | .text q cs => ([if q then .quoted cs else .written cs], st)
  | .value q p => expandValue q p st
  | .length q p =>
    let value := st.value? p
    if st.has 'u' && value.isNone && p ≠ .joined && p ≠ .each then ([], st.fail (.notSet p.text))
    else ([.ofValue q (Octets.ofNat (value.getD []).length)], st)
  | .guarded q p orEmpty s word => expandGuarded expand q p orEmpty s word st
  | .trimmed q p atEnd longest word =>
    let (value, st) := expandValue q p st
    if !st.isRunning then ([], st)
    else
      let (fs, st) := expand (st.withHome word) st
      let pattern := Pattern.of (fs.flatMap (Fragment.field st.joint))
      let text := Fragment.join (if p = .each then [' '] else st.joint) value
      ([.ofValue q (pattern.trim atEnd longest text)], st)
  | .output q script =>
    let (out, after) := st.capture fun st =>
      st.beside run fun st => run script { st with isTested := false }
    let text := out.filter (· ≠ '\x00')
    ([.ofValue q (Octets.dropLastLineFeeds text)],
      { after with status := st.status, statusInWords := some after.status }.receiveFatal)
  | .arithmetic q word =>
    let (fs, st) := expand word st
    if !st.isRunning then ([], st)
    else
      let (n, st) := st.evaluate (Fragment.join st.joint fs)
      ([.ofValue q (Octets.ofInt n)], st)
  | .meaningless => ([], st.fail .meaninglessSubstitution)

/-- The fragments of a word. -/
def expandWord (run : Runner) (expand : Expander) (word : Word) (st : State) :
    List Fragment × State :=
  let (parts, st) := word.foldl (fun (parts, st) piece =>
    if st.isRunning then
      let (more, st) := expandPiece run expand piece st
      (more :: parts, st)
    else (parts, st)) ([], st)
  (parts.reverse.flatten, st)

end State

/-! ## Fields -/

/-- Fields that are being put together. -/
structure Splitting where
  /-- The fields that are finished, the last one first. -/
  finished : List Field
  /-- The field that is being written, the last character first. -/
  current : Option Field
  /-- Whether the last field ended at white space. -/
  afterSpace : Bool
  /-- Whether white space is no different from other separators. -/
  isStrict : Bool

namespace Splitting

/-- Nothing yet. -/
def start : Splitting := ⟨[], none, false, false⟩

/-- Ends a field. -/
def close (s : Splitting) : Splitting :=
  match s.current with
  | none => s
  | some f => { s with finished := f.reverse :: s.finished, current := none }

/-- Adds characters. -/
def add (s : Splitting) (f : Field) : Splitting :=
  { s with current := some (f.reverse ++ s.current.getD []), afterSpace := false }

/-- Adds a character, or ends a field if it separates fields. -/
def addSplit (separators : Octets) (s : Splitting) (c : Char) : Splitting :=
  if !separators.contains c then s.add [(c, false)]
  else if !s.isStrict && (c = ' ' || c = '\t' || c = '\n') then
    match s.current with
    | none => s
    | some _ => { s.close with afterSpace := true }
  else if s.afterSpace then { s with afterSpace := false }
  else { (s.add []).close with afterSpace := false }

/-- Adds a fragment. -/
def addFragment (separators : Octets) (s : Splitting) : Fragment → Splitting
  | .written cs => s.add (Field.ofOctets false cs)
  | .quoted cs => s.add (Field.ofOctets true cs)
  | .split cs => { cs.foldl (addSplit separators) s with isStrict := false }
  | .boundary => { s.close with afterSpace := false }
  | .seam => { s with isStrict := true }

end Splitting

/-- The fields of fragments. -/
def Fragment.fields (separators : Octets) (fs : List Fragment) : List Field :=
  (fs.foldl (Splitting.addFragment separators) Splitting.start).close.finished.reverse

/-! ## Names of files -/

namespace State

/-- Whether a field is a pattern. -/
def isPattern (f : Field) : Bool := f.any fun c => !c.2 && (c.1 = '*' || c.1 = '?' || c.1 = '[')

/-- The parts of a field between slashes. -/
def fieldNames : Field → List Field
  | [] => [[]]
  | c :: rest =>
    if c.1 = '/' then [] :: fieldNames rest
    else match fieldNames rest with
      | [] => [[c]]
      | f :: others => (c :: f) :: others

/-- The names in a directory that a pattern stands for, in order. -/
def matching (st : State) (directory : String) (f : Field) : List Octets :=
  match st.host.resolve (if directory.isEmpty then "." else directory) with
  | .error _ => []
  | .ok l =>
    let showsHidden := f.head?.map Prod.fst == some '.'
    let pattern := Pattern.of f
    let names := ((if showsHidden then [".", ".."] else []) ++ st.host.tree.names l).filter fun name =>
      (showsHidden || name.toList.head? ≠ some '.') && pattern.accepts (Octets.ofString name)
    (names.mergeSort fun a b => decide (a ≤ b)).map Octets.ofString

/-- The characters of a field in a path, without the backslashes that take a meaning. -/
def plainName : Field → Octets
  | ('\\', false) :: (c, _) :: rest => c :: plainName rest
  | (c, _) :: rest => c :: plainName rest
  | [] => []

/-- The paths that begin in some way and go on with the parts of a pattern. -/
def paths (st : State) : List Octets → List Field → List Octets
  | starts, [] => starts
  | starts, f :: rest =>
    let next := starts.flatMap fun start =>
      let names := if isPattern f then st.matching (Octets.toText start) f else [plainName f]
      names.map fun name => start ++ name ++ (if rest.isEmpty then [] else ['/'])
    paths st next rest

/-- The paths that a field stands for, or the field itself. -/
def glob (st : State) (f : Field) : List Octets :=
  if st.has 'f' || !isPattern f then [f.chars]
  else
    let found := (st.paths [[]] (fieldNames f)).filter fun p =>
      (st.host.entry? (Octets.toText p)).isSome
    if found.isEmpty then [f.chars] else found

/-! ## Words -/

/-- The fields of a word. -/
def wordFields (expand : Expander) (word : Word) (st : State) : List Octets × State :=
  let (fs, st) := expand (st.withHome word) st
  ((Fragment.fields st.separators fs).flatMap st.glob, st)

/-- The fields of words. -/
def fields (expand : Expander) (words : List Word) (st : State) : List Octets × State :=
  let (parts, st) := words.foldl (fun (parts, st) word =>
    if st.isRunning then
      let (more, st) := st.wordFields expand word
      (more :: parts, st)
    else (parts, st)) (([] : List (List Octets)), st)
  (parts.reverse.flatten, st)

/-- The text of a word that is not split. -/
def text (expand : Expander) (word : Word) (st : State) : Octets × State :=
  let (fs, st) := expand (st.withHome word) st
  (Fragment.join st.joint fs, st)

/-- The text of a word that is assigned. -/
def assignedText (expand : Expander) (word : Word) (st : State) : Octets × State :=
  let (fs, st) := expand (st.withHomes word) st
  (Fragment.join st.joint fs, st)

/-- The pattern of a word. -/
def pattern (expand : Expander) (word : Word) (st : State) : Pattern × State :=
  let (fs, st) := expand (st.withHome word) st
  (Pattern.of (fs.flatMap (Fragment.field st.joint)), st)

end State

end Shell

end BenchCampaign
