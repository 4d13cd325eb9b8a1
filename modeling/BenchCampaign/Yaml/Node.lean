import BenchCampaign.Yaml.Token

/-!
# The nodes of a document

A document is a tree of scalars, sequences and mappings.  As it is written, a
node may be anchored and another may be an alias of it; once aliases are
resolved, only the tree is left.

* `Written`: a node with anchors and aliases, which are called by some label.
* `Node`: a node without them.
-/

namespace BenchCampaign

namespace Yaml

/-- A node as it is written; anchors and aliases are called by an `ι`. -/
inductive Written (ι : Type) where
  | alias (label : ι)
  | scalar (anchor : Option ι) (tag : Option NodeTag) (style : Style) (text : String)
  | sequence (anchor : Option ι) (tag : Option NodeTag) (items : List (Written ι))
  | mapping (anchor : Option ι) (tag : Option NodeTag) (entries : List (Written ι × Written ι))
deriving Repr

/-- A node with every alias resolved. -/
inductive Node where
  | scalar (tag : Option NodeTag) (style : Style) (text : String)
  | sequence (tag : Option NodeTag) (items : List Node)
  | mapping (tag : Option NodeTag) (entries : List (Node × Node))
deriving Repr

/-- The node of nothing written: an empty plain scalar. -/
def Written.empty {ι : Type} : Written ι := .scalar none none .plain ""

end Yaml

end BenchCampaign
