import BenchCampaign.Host.FileTree
import BenchCampaign.Shell.Octets

/-!
# Descriptors

A descriptor leads to an output that somebody reads later, to text that can be
read, to an open file, or to a device.

* `Channel`: where a descriptor leads.
* `Input`: what can be read from one.
* `OpenFile`: a file with the place where it is read or written next.
* `Written.inOrder`: what was written, in the order of time.
-/

namespace BenchCampaign

namespace Shell

/-! ## Reading -/

/-- What can be read. -/
structure Input where
  text : Octets
  /-- Whether zeros follow without end. -/
  isEndless : Bool
  /-- Whether what a program leaves unread is there for the next one. -/
  isSeekable : Bool
  /-- Why nothing can be read. -/
  fault? : Option String
deriving Repr

namespace Input

/-- Text that is gone once it was read. -/
def ofText (text : Octets) : Input := ⟨text, false, false, none⟩

/-- Nothing to read. -/
def empty : Input := ofText []

/-- What cannot be read. -/
def ofFault (fault : String) : Input := { empty with fault? := some fault }

/-- The first characters, and what is left. -/
def take (i : Input) (count : Nat) : Octets × Input :=
  let front := i.text.take count
  let zeros := if i.isEndless then List.replicate (count - front.length) '\x00' else []
  (front ++ zeros, { i with text := i.text.drop count })

/-- With other text left to be read. -/
def withText (i : Input) (text : Octets) : Input := { i with text := text }

/-- What is left for others when only some of the text was needed: the rest of a file, and
nothing of text that is gone once it was read. -/
def leaving (i : Input) (rest : Octets) : Input :=
  i.withText (if i.isSeekable then rest else [])

/-- What is left of a device or of text that was read whole. -/
def drained (i : Input) : Input := i.withText []

end Input

/-! ## Open files -/

/-- A file with the place where it is read or written next. -/
structure OpenFile where
  location : Location
  offset : Nat
  /-- Whether what is written goes behind what is there. -/
  appends : Bool
  /-- What the file holds since nothing leads to it any more. -/
  detached : Option (List UInt8)
deriving DecidableEq, Repr

/-- Bytes with others in place of those from an offset on. -/
def overwrite (old : List UInt8) (offset : Nat) (bytes : List UInt8) : List UInt8 :=
  let gap := List.replicate (offset - old.length) 0
  old.take offset ++ gap ++ bytes ++ old.drop (offset + bytes.length)

namespace OpenFile

/-- What a file holds. -/
def content (f : OpenFile) (t : FileTree) : List UInt8 :=
  match f.detached with
  | some bytes => bytes
  | none =>
    match t.entry? f.location with
    | some (.file g) => g.content.toBytes
    | _ => []

/-- What is left to be read. -/
def rest (f : OpenFile) (t : FileTree) : Octets :=
  Octets.ofBytes ((f.content t).drop f.offset)

/-- The tree and the file after bytes are written. -/
def write (f : OpenFile) (t : FileTree) (bytes : List UInt8) : FileTree × OpenFile :=
  let old := f.content t
  let offset := if f.appends then old.length else f.offset
  let new := overwrite old offset bytes
  let after := { f with offset := offset + bytes.length }
  match f.detached, t.entry? f.location with
  | some _, _ => (t, { after with detached := some new })
  | none, some (.file g) => (t.put f.location (.file { g with content := .bytes new }), after)
  | none, _ => (t, after)

/-- A file after the tree changed: it keeps what it holds if it is no longer there. -/
def follow (f : OpenFile) (before after : FileTree) : OpenFile :=
  match f.detached, after.entry? f.location with
  | none, some (.file _) => f
  | none, _ => { f with detached := some (f.content before) }
  | some _, _ => f

end OpenFile

/-! ## Channels -/

/-- Where a descriptor leads. -/
inductive Channel where
  /-- To what is read when the writer has ended. -/
  | output (index : Nat)
  | input (index : Nat)
  | file (index : Nat) (isRead isWritten : Bool)
  | device (d : Device)
  | directory
  | closed
deriving DecidableEq, Repr

/-! ## Writing -/

/-- A part of what was written: when, by whom, and what. -/
structure Written where
  time : Nat
  process : Nat
  text : Octets
deriving Repr

/-- What was written, the last part first, in the order of time. -/
def Written.inOrder (parts : List Written) : Octets :=
  (parts.reverse.mergeSort fun a b => decide (a.time ≤ b.time)).flatMap Written.text

end Shell

end BenchCampaign
