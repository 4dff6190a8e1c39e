import LinkPlanner.Document.Plan
import LinkPlanner.Request.Plan
import LinkPlanner.Toml.Printer
import LinkPlanner.Toml.Reader

/-! Requests and plans as text in TOML. -/

namespace LinkPlanner

/-- The request that a text describes, if it describes one. -/
def LinkRequest.ofText? (patterns : PatternReader) (text : String) : Option LinkRequest := do
  LinkRequest.ofDocument? patterns .toml (← Toml.read? text)

def LinkPlan.text (p : LinkPlan) : String := Toml.print p.toDocument

end LinkPlanner
