import LinkPlanner.Files.Artifact
import LinkPlanner.Order.OrderedMap

/-! The artifacts that planning has declared as outputs of actions. -/

namespace LinkPlanner

/-- Whether a declared artifact has to lie within the output directory of the target that declares it. -/
inductive Sharing where
  | ownedByTarget
  /-- Several targets may refer to the very same file, so it may lie elsewhere. -/
  | shareable
deriving DecidableEq, Repr, Inhabited

def Sharing.name : Sharing → String
  | .ownedByTarget => "owned-by-target"
  | .shareable => "shareable"

/-- Once something has asked for an artifact to be shareable it stays so. -/
def Sharing.join : Sharing → Sharing → Sharing
  | .ownedByTarget, s => s
  | .shareable, _ => .shareable

/-- Every declared artifact with its sharing, in the order of first declaration. -/
abbrev Declarations := OrderedMap Artifact Sharing

/-- Declaring an artifact again changes at most its sharing. -/
def Declarations.declare (d : Declarations) (a : Artifact) (sharing : Sharing) : Declarations :=
  d.upsert a sharing (·.join sharing)

/-- A request to declare the file, or the tree, at a path under the bin directory. -/
structure DeclarationRequest where
  path : Path
  tree : Bool
  sharing : Sharing

def DeclarationRequest.artifact (binDirectory : Path) (r : DeclarationRequest) : Artifact :=
  if r.tree then .tree binDirectory r.path else .derived binDirectory r.path

/-- Declares what is requested. Whoever requests it is given the artifact in the spelling of the request. -/
def Declarations.request (binDirectory : Path) (d : Declarations) (r : DeclarationRequest) : Artifact × Declarations :=
  (r.artifact binDirectory, d.declare (r.artifact binDirectory) r.sharing)

end LinkPlanner
