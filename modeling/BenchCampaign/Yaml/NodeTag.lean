import BenchCampaign.Text.Utf8

/-!
# Tags of nodes

A tag names the type of a node.  It is a sequence of bytes, since its escapes may
spell any bytes; it ends before the first zero byte.  A tag that begins with an
exclamation mark belongs to the document itself, and any other one is a name that
all documents share.

* `NodeTag.ofBytes`: the tag that some bytes spell.
* `NodeTag.own?`: the name of a document's own tag.
-/

namespace BenchCampaign

namespace Yaml

/-- A tag. -/
structure NodeTag where
  bytes : List UInt8
deriving DecidableEq, Repr

namespace NodeTag

/-- The bytes in front of the first zero byte. -/
def untilZero (bytes : List UInt8) : List UInt8 := bytes.takeWhile (· != 0)

/-- The tag that some bytes spell. -/
def ofBytes (bytes : List UInt8) : NodeTag := ⟨untilZero bytes⟩

/-- The tag of a text. -/
def ofText (text : String) : NodeTag := ofBytes (Text.utf8 text.toList)

/-- The lone exclamation mark. -/
def bare : NodeTag := ofText "!"

/-- The tag of a meaning that all documents share. -/
def standard (name : String) : NodeTag := ofText ("tag:yaml.org,2002:" ++ name)

/-- Whether a tag begins with an exclamation mark. -/
def isOwn (t : NodeTag) : Bool := t.bytes.head? == some 0x21

/-- The name of a document's own tag: what follows the exclamation mark, unless nothing
does.  Bytes that are no text are no name. -/
def own? (t : NodeTag) : Option String :=
  match t.bytes with
  | [0x21] => some "!"
  | 0x21 :: rest => (Text.ofUtf8? rest).map String.ofList
  | _ => none

end NodeTag

end Yaml

end BenchCampaign
