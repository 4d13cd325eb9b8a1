import BenchCampaign.Text.Utf8

/-!
# File trees

A host has a tree of files.  A file lies at a location, the names that lead to
it from the root; a path is a text that leads to a location, from the root or
from the directory that one works in.

* `FileTree.entry?`, `FileTree.put`, `FileTree.remove`: what lies at a location.
* `Host.resolve`: the location that a path leads to.
* `Host.read`, `Host.write`: the bytes of the file at a path.
* `Host.decodeFile`: what the text of a file decodes to.
-/

namespace BenchCampaign

/-- Why a path leads to no file. -/
inductive PathFault where
  | missing
  | notDirectory
  | nameTooLong
  | nulCharacter
  /-- A directory lies where a file is needed. -/
  | isDirectory
  /-- A device takes no more. -/
  | noSpace
deriving DecidableEq, Repr

/-- What a system calls a fault. -/
def PathFault.description : PathFault → String
  | missing => "No such file or directory"
  | notDirectory => "Not a directory"
  | nameTooLong => "File name too long"
  | nulCharacter => "Invalid argument"
  | isDirectory => "Is a directory"
  | noSpace => "No space left on device"

/-- The names that lead to a place from the root. -/
abbrev Location := List String

/-- What a file holds: bytes, or a program of the system, which goes by its name. -/
inductive Content where
  | bytes (content : List UInt8)
  | program (name : String)
deriving DecidableEq, Repr

/-- A regular file. -/
structure RegularFile where
  /-- The permissions, three bits each for the owner, the group and others. -/
  mode : Nat
  content : Content
deriving DecidableEq, Repr

/-- Whether anybody may execute a file. -/
def RegularFile.isExecutable (f : RegularFile) : Bool := f.mode &&& 0o111 != 0

/-- A device that stores nothing. -/
inductive Device where
  /-- Takes everything, and gives nothing. -/
  | null
  /-- Takes everything, and gives zeros without end. -/
  | zero
  /-- Takes nothing, and gives zeros without end. -/
  | full
deriving DecidableEq, Repr

/-- What lies at a location. -/
inductive Entry where
  | directory
  | file (f : RegularFile)
  | device (d : Device)
deriving DecidableEq, Repr

/-! ## What files hold -/

/-- The bytes of a file; those of a program are no text. -/
def Content.toBytes : Content → List UInt8
  | bytes content => content
  | program _ => [0x7F, 0x45, 0x4C, 0x46, 0xFF]

/-- The permissions of a file that is made without asking for any. -/
def RegularFile.defaultMode : Nat := 0o644

/-- What becomes of an entry when bytes are written to it; a directory takes none, and a
device that is full only takes none at all. -/
def Entry.written? (content : List UInt8) : Option Entry → Except PathFault Entry
  | none => .ok (file ⟨RegularFile.defaultMode, .bytes content⟩)
  | some (file f) => .ok (file { f with content := .bytes content })
  | some (device .full) => if content.isEmpty then .ok (device .full) else .error .noSpace
  | some (device d) => .ok (device d)
  | some directory => .error .isDirectory

/-! ## Trees -/

/-- What lies where; the root is a directory in any case. -/
structure FileTree where
  entries : List (Location × Entry)
deriving Repr

namespace FileTree

/-- What lies at a location. -/
def entry? (t : FileTree) (l : Location) : Option Entry :=
  if l.isEmpty then some .directory
  else (t.entries.find? fun e => e.1 = l).map Prod.snd

/-- Puts something at a location, in place of what lies there. -/
def put (t : FileTree) (l : Location) (e : Entry) : FileTree :=
  ⟨(l, e) :: t.entries.filter fun old => old.1 ≠ l⟩

/-- Removes what lies at a location. -/
def remove (t : FileTree) (l : Location) : FileTree :=
  ⟨t.entries.filter fun e => e.1 ≠ l⟩

/-- The names in a directory. -/
def names (t : FileTree) (l : Location) : List String :=
  t.entries.filterMap fun e =>
    match e.1.getLast? with
    | some name => if e.1.dropLast = l then some name else none
    | none => none

/-- Makes a directory, and those above it, where there is nothing yet. -/
def makeDirectories (t : FileTree) (l : Location) : FileTree :=
  (List.range l.length).foldl (fun t i =>
    let above := l.take (i + 1)
    if (t.entry? above).isSome then t else t.put above .directory) t

end FileTree

/-! ## Paths -/

namespace Path

/-- The names of a path, with empty ones where slashes follow each other. -/
def names : List Char → List (List Char)
  | [] => [[]]
  | c :: rest =>
    if c = '/' then [] :: names rest
    else match names rest with
      | [] => [[c]]
      | name :: others => (c :: name) :: others

/-- The longest name, in bytes. -/
def maxName : Nat := 255

/-- The longest path, in bytes. -/
def maxPath : Nat := 4095

end Path

/-- A computer to run a campaign on. -/
structure Host where
  tree : FileTree
  /-- The directory that relative paths start from. -/
  directory : Location
  /-- Where programs without a slash in their name are searched for. -/
  searchPath : List String
deriving Repr

namespace Host

/-- One name further from a directory. -/
def step (t : FileTree) (l : Location) (name : List Char) : Except PathFault Location :=
  match t.entry? l with
  | some .directory =>
    if name = [] || name = ['.'] then .ok l
    else if name = ['.', '.'] then .ok l.dropLast
    else
      let name := String.ofList name
      if Path.maxName < name.utf8ByteSize then .error .nameTooLong
      else if (t.entry? (l ++ [name])).isSome then .ok (l ++ [name])
      else .error .missing
  | _ => .error .notDirectory

/-- Where a path starts. -/
def start (h : Host) (path : List Char) : Location :=
  if path.head? = some '/' then [] else h.directory

/-- What no path may be. -/
def pathFault? (path : String) : Option PathFault :=
  if path.toList.contains '\x00' then some .nulCharacter
  else if path.isEmpty then some .missing
  else if Path.maxPath < path.utf8ByteSize then some .nameTooLong
  else none

/-- The location that a path leads to. -/
def resolve (h : Host) (path : String) : Except PathFault Location :=
  match pathFault? path with
  | some fault => .error fault
  | none => (Path.names path.toList).foldlM (step h.tree) (h.start path.toList)

/-- What lies at a path. -/
def entry? (h : Host) (path : String) : Option Entry :=
  match h.resolve path with
  | .ok l => h.tree.entry? l
  | .error _ => none

/-- The regular file at a path. -/
def file? (h : Host) (path : String) : Option RegularFile :=
  match h.entry? path with
  | some (.file f) => some f
  | _ => none

/-- The location of a file that may have to be made first: only its directory has to be
there already. -/
def resolveNew (h : Host) (path : String) : Except PathFault Location :=
  match h.resolve path with
  | .ok l => .ok l
  | .error .missing =>
    match pathFault? path with
    | some fault => .error fault
    | none =>
      let names := Path.names path.toList
      match names.getLast? with
      | none => .error .missing
      | some name => do
        let l ← names.dropLast.foldlM (step h.tree) (h.start path.toList)
        if name = [] then .error .isDirectory
        else .ok (l ++ [String.ofList name])
  | .error fault => .error fault

/-! ## Reading and writing -/

/-- The bytes of the file at a path. -/
def read (h : Host) (path : String) : Except PathFault (List UInt8) :=
  match h.resolve path with
  | .error fault => .error fault
  | .ok l =>
    match h.tree.entry? l with
    | some (.file f) => .ok (f.content.toBytes)
    | some (.device _) => .ok []
    | some .directory => .error .isDirectory
    | none => .error .missing

/-- What the text of the file at a path decodes to; a directory can be opened like a file,
but holds nothing that could be decoded. -/
def decodeFile {β : Type} (h : Host) (path : String) (decode : List Char → Option β) :
    Except PathFault (Option β) :=
  match h.read path with
  | .ok content => .ok ((Text.ofUtf8? content).bind decode)
  | .error .isDirectory => .ok none
  | .error fault => .error fault

/-- The host with bytes in the file at a path. -/
def write (h : Host) (path : String) (content : List UInt8) : Except PathFault Host :=
  match h.resolveNew path with
  | .error fault => .error fault
  | .ok l =>
    match Entry.written? content (h.tree.entry? l) with
    | .ok e => .ok { h with tree := h.tree.put l e }
    | .error fault => .error fault

end Host

end BenchCampaign
