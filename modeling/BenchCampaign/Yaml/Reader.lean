import BenchCampaign.Yaml.Alias
import BenchCampaign.Yaml.Document
import BenchCampaign.Yaml.Layout

/-!
# Reading YAML

* `Node.read?`: the tree of a text that holds no more than one document.
-/

namespace BenchCampaign

namespace Yaml

/-- The tree of a text; an empty text is an empty scalar. -/
def Node.read? (text : List Char) : Option Node := do
  let tokens ← Layout.tokens text
  let written ← Document.ofTokens? tokens
  let numbered ← written.numbered?
  numbered.resolve?

end Yaml

end BenchCampaign
