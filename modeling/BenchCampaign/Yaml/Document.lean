import BenchCampaign.Yaml.Node

/-!
# Documents from tokens

A text holds one document: directives, a start marker that is optional without
directives, one node, and end markers.  Where a node could stand and none is
written there is an empty scalar.

* `Document.ofTokens?`: the node of a text's tokens.
-/

namespace BenchCampaign

namespace Yaml

namespace Document

/-- What a handle stands for. -/
abbrev Handles := List (String × NodeTag)

/-- The tag that a handle and a suffix make. -/
def tagOf? (handles : Handles) (handle : String) (suffix : NodeTag) : Option NodeTag :=
  if handle.isEmpty then some suffix
  else (handles.find? fun h => h.1 = handle).map fun h => ⟨h.2.bytes ++ suffix.bytes⟩

/-- The anchor and the tag in front of a node. -/
structure Properties where
  anchor : Option String := none
  tag : Option NodeTag := none

/-- Reads an anchor and a tag, in either order. -/
def properties (handles : Handles) : List Token → Option (Properties × List Token)
  | .anchor a :: .tag h s :: rest => (tagOf? handles h s).map fun t => (⟨some a, some t⟩, rest)
  | .tag h s :: .anchor a :: rest => (tagOf? handles h s).map fun t => (⟨some a, some t⟩, rest)
  | .anchor a :: rest => some (⟨some a, none⟩, rest)
  | .tag h s :: rest => (tagOf? handles h s).map fun t => (⟨none, some t⟩, rest)
  | rest => some ({}, rest)

/-- Whether some tokens go on with one of the given ones. -/
def goesOn (with' : List Token) : List Token → Bool
  | [] => false
  | t :: _ => with'.contains t

/-- A node and the tokens after it. -/
abbrev Read := Option (Written String × List Token)

mutual

/-- Reads a node.  Block collections may stand only where `inBlock`, and a sequence that
is not indented only as `undented`. -/
def node (handles : Handles) : Nat → (inBlock undented : Bool) → List Token → Read
  | 0, _, _, _ => none
  | fuel + 1, inBlock, undented, tokens =>
    match tokens with
    | .alias a :: rest => some (.alias a, rest)
    | _ =>
      match properties handles tokens with
      | none => none
      | some (p, tokens) =>
        let sequence (r : Option (List (Written String) × List Token)) : Read :=
          r.map fun r => (.sequence p.anchor p.tag r.1, r.2)
        let mapping (r : Option (List (Written String × Written String) × List Token)) : Read :=
          r.map fun r => (.mapping p.anchor p.tag r.1, r.2)
        match tokens with
        | .scalar style text :: rest => some (.scalar p.anchor p.tag style text, rest)
        | .flowSequenceStart :: rest => sequence (flowItems handles fuel true rest)
        | .flowMappingStart :: rest => mapping (flowEntries handles fuel true rest)
        | .blockSequenceStart :: rest =>
          if inBlock then sequence (blockItems handles fuel rest) else emptyNode p tokens
        | .blockMappingStart :: rest =>
          if inBlock then mapping (blockEntries handles fuel rest) else emptyNode p tokens
        | .blockEntry :: _ =>
          if undented then sequence (undentedItems handles fuel tokens) else emptyNode p tokens
        | _ => emptyNode p tokens
where
  /-- An anchor or a tag with nothing after it belongs to an empty scalar. -/
  emptyNode (p : Properties) (tokens : List Token) : Read :=
    if p.anchor.isSome || p.tag.isSome then some (.scalar p.anchor p.tag .plain "", tokens)
    else none

/-- Reads a node that is empty if one of `ends` comes next. -/
def nodeOr (handles : Handles) :
    Nat → List Token → (inBlock undented : Bool) → List Token → Read
  | 0, _, _, _, _ => none
  | fuel + 1, ends, inBlock, undented, tokens =>
    if goesOn ends tokens then some (.empty, tokens)
    else node handles fuel inBlock undented tokens

/-- Reads the items of an indented sequence. -/
def blockItems (handles : Handles) :
    Nat → List Token → Option (List (Written String) × List Token)
  | 0, _ => none
  | fuel + 1, tokens =>
    match tokens with
    | .blockEntry :: rest =>
      match nodeOr handles fuel [.blockEntry, .blockEnd] true false rest with
      | none => none
      | some (item, rest) => (blockItems handles fuel rest).map fun r => (item :: r.1, r.2)
    | .blockEnd :: rest => some ([], rest)
    | _ => none

/-- Reads the items of a sequence that is not indented. -/
def undentedItems (handles : Handles) :
    Nat → List Token → Option (List (Written String) × List Token)
  | 0, _ => none
  | fuel + 1, tokens =>
    match tokens with
    | .blockEntry :: rest =>
      match nodeOr handles fuel [.blockEntry, .key, .value, .blockEnd] true false rest with
      | none => none
      | some (item, rest) => (undentedItems handles fuel rest).map fun r => (item :: r.1, r.2)
    | _ => some ([], tokens)

/-- Reads the entries of a block mapping. -/
def blockEntries (handles : Handles) :
    Nat → List Token → Option (List (Written String × Written String) × List Token)
  | 0, _ => none
  | fuel + 1, tokens =>
    match tokens with
    | .key :: rest =>
      match nodeOr handles fuel [.key, .value, .blockEnd] true true rest with
      | none => none
      | some (k, rest) => blockValue handles fuel k rest
    | .value :: _ => none
    | .blockEnd :: rest => some ([], rest)
    | _ => none

/-- Reads the value of a block mapping's key, and the entries after it. -/
def blockValue (handles : Handles) :
    Nat → Written String → List Token →
      Option (List (Written String × Written String) × List Token)
  | 0, _, _ => none
  | fuel + 1, k, tokens =>
    match tokens with
    | .value :: rest =>
      match nodeOr handles fuel [.key, .value, .blockEnd] true true rest with
      | none => none
      | some (v, rest) => (blockEntries handles fuel rest).map fun r => ((k, v) :: r.1, r.2)
    | _ => (blockEntries handles fuel tokens).map fun r => ((k, .empty) :: r.1, r.2)

/-- Reads the items of a bracketed sequence. -/
def flowItems (handles : Handles) :
    Nat → (isFirst : Bool) → List Token → Option (List (Written String) × List Token)
  | 0, _, _ => none
  | fuel + 1, isFirst, tokens =>
    match isFirst, tokens with
    | _, .flowSequenceEnd :: rest => some ([], rest)
    | true, _ => flowItem handles fuel tokens
    | false, .flowEntry :: .flowSequenceEnd :: rest => some ([], rest)
    | false, .flowEntry :: rest => flowItem handles fuel rest
    | false, _ => none

/-- Reads an item of a bracketed sequence, which may be a mapping of one entry, and the
items after it. -/
def flowItem (handles : Handles) :
    Nat → List Token → Option (List (Written String) × List Token)
  | 0, _ => none
  | fuel + 1, tokens =>
    match tokens with
    | .key :: rest =>
      match singleKey handles fuel rest with
      | none => none
      | some (k, rest) =>
        match flowValue handles fuel .flowSequenceEnd rest with
        | none => none
        | some (v, rest) =>
          (flowItems handles fuel false rest).map fun r =>
            (.mapping none none [(k, v)] :: r.1, r.2)
    | _ =>
      match node handles fuel false false tokens with
      | none => none
      | some (item, rest) => (flowItems handles fuel false rest).map fun r => (item :: r.1, r.2)

/-- Reads the key of a mapping of one entry.  An empty key takes the sign after it along. -/
def singleKey (handles : Handles) : Nat → List Token → Read
  | 0, _ => none
  | fuel + 1, tokens =>
    match tokens with
    | .value :: rest => some (.empty, rest)
    | .flowEntry :: rest => some (.empty, rest)
    | .flowSequenceEnd :: rest => some (.empty, rest)
    | _ => node handles fuel false false tokens

/-- Reads a value after a colon; without a colon it is empty. -/
def flowValue (handles : Handles) : Nat → Token → List Token → Read
  | 0, _, _ => none
  | fuel + 1, ending, tokens =>
    match tokens with
    | .value :: rest => nodeOr handles fuel [.flowEntry, ending] false false rest
    | _ => some (.empty, tokens)

/-- Reads the entries of a bracketed mapping. -/
def flowEntries (handles : Handles) :
    Nat → (isFirst : Bool) → List Token →
      Option (List (Written String × Written String) × List Token)
  | 0, _, _ => none
  | fuel + 1, isFirst, tokens =>
    match isFirst, tokens with
    | _, .flowMappingEnd :: rest => some ([], rest)
    | true, _ => flowPair handles fuel tokens
    | false, .flowEntry :: .flowMappingEnd :: rest => some ([], rest)
    | false, .flowEntry :: rest => flowPair handles fuel rest
    | false, _ => none

/-- Reads an entry of a bracketed mapping, and the entries after it.  A node without a
sign of a key is a key without a value. -/
def flowPair (handles : Handles) :
    Nat → List Token → Option (List (Written String × Written String) × List Token)
  | 0, _ => none
  | fuel + 1, tokens =>
    match tokens with
    | .key :: rest =>
      match nodeOr handles fuel [.value, .flowEntry, .flowMappingEnd] false false rest with
      | none => none
      | some (k, rest) =>
        match flowValue handles fuel .flowMappingEnd rest with
        | none => none
        | some (v, rest) =>
          (flowEntries handles fuel false rest).map fun r => ((k, v) :: r.1, r.2)
    | _ =>
      match node handles fuel false false tokens with
      | none => none
      | some (k, rest) =>
        (flowEntries handles fuel false rest).map fun r => ((k, .empty) :: r.1, r.2)

end

/-! ## The whole text -/

/-- Reads directives: whether a version was among them, and the handles. -/
def directives : Bool → Handles → List Token → Option (Handles × List Token)
  | hasVersion, handles, tokens =>
    match tokens with
    | .version major minor :: rest =>
      if hasVersion || major != 1 || (minor != 1 && minor != 2) then none
      else directives true handles rest
    | .handle h beginning :: rest =>
      if handles.any fun e => e.1 = h then none
      else directives hasVersion (handles ++ [(h, beginning)]) rest
    | _ => some (handles, tokens)

/-- The handles that need not be declared; a declaration goes before them. -/
def standardHandles : Handles := [("!", NodeTag.bare), ("!!", NodeTag.standard "")]

/-- Whether a token stands between documents. -/
def isBetween : Token → Bool
  | .version _ _ => true
  | .handle _ _ => true
  | .documentStart => true
  | .documentEnd => true
  | .textEnd => true
  | _ => false

/-- The node of a document, after its start marker. -/
def content (handles : Handles) (tokens : List Token) : Read :=
  match tokens with
  | t :: _ =>
    if isBetween t then some (.empty, tokens)
    else node (handles ++ standardHandles) (4 * tokens.length + 8) true false tokens
  | [] => none

/-- The node of the first document. -/
def first (tokens : List Token) : Read :=
  match tokens with
  | [.textEnd] => some (.empty, tokens)
  | _ =>
    match directives false [] tokens with
    | none => none
    | some (handles, .documentStart :: rest) => content handles rest
    | some (_, rest) =>
      if rest.length < tokens.length then none
      else if goesOn [.documentEnd, .textEnd] tokens then none
      else content [] tokens

/-- The node of a text's tokens, which hold no more than one document. -/
def ofTokens? (tokens : List Token) : Option (Written String) :=
  match first tokens with
  | some (n, rest) =>
    if rest.dropWhile (· == .documentEnd) == [.textEnd] then some n else none
  | none => none

end Document

end Yaml

end BenchCampaign
