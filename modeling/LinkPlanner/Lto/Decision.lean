import LinkPlanner.Link.Kind

/-! Whether a link is indexed. A statically linked test would need backends of its own for every member of every
library, so features can have such links use the shared backends instead. -/

namespace LinkPlanner

structure LtoDecision where
  /-- Members of statically linked libraries take part in the indexing; if not, their shared backends are used. -/
  includeStatic : Bool
  allowIndexing : Bool
deriving DecidableEq, Repr, Inhabited

/-- Everything that the decision looks at. -/
structure LtoFacts where
  allLinkstaticUseSharedBackends : Bool
  linkstaticTestsUseSharedBackends : Bool
  testOrTestOnly : Bool
  linkingMode : LinkingMode
  hasOwnBitcode : Bool
  hasAnyBitcode : Bool

/-- Without the members of static libraries there is something to index only in a dynamic link with bitcode of
its own. -/
def LtoFacts.decide (f : LtoFacts) : LtoDecision :=
  let includeStatic :=
    !f.allLinkstaticUseSharedBackends && (!f.linkstaticTestsUseSharedBackends || !f.testOrTestOnly)
  { includeStatic
    allowIndexing := f.hasAnyBitcode && (includeStatic || (f.linkingMode == .dynamic && f.hasOwnBitcode)) }

end LinkPlanner
